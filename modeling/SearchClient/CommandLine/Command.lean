import SearchClient.CommandLine.Argument
import SearchClient.CommandLine.Plan

/-! The commands of the command line. -/

namespace SearchClient.CommandLine

inductive Command where
  /-- Shows how a query is translated. -/
  | parse (query : String)
  /-- Shows the class ids of entity types. -/
  | classes (conf : Option String)
  /-- Shows the request for a search. -/
  | plan (flags : PlanFlags)
  /-- Shows the configuration, or only where it is read from. -/
  | config (pathOnly : Bool)

/-- A command with the flags that all commands share. -/
structure Invocation where
  /-- The configuration, in place of the one at the default place. -/
  config : Option String := none
  /-- Warnings are not reported. -/
  quiet : Bool := false
  command : Command

/-- What a command line asks for. -/
inductive Intent where
  /-- Shows the version. -/
  | version
  | run (invocation : Invocation)

/-! ### Flags -/

/-- The flags that stand before or after the name of a command. Warnings are the finest detail that is
    reported, so `verbose` changes nothing. -/
def sharedFlags : List Flag :=
  [⟨"config", some 'c', .single⟩, ⟨"verbose", some 'v', .counter⟩, ⟨"quiet", some 'q', .switch⟩]

/-- The flags in front of the name of a command. -/
def leadingFlags : List Flag := ⟨"version", some 'V', .final⟩ :: sharedFlags

def confFlag : Flag := ⟨"conf", none, .single⟩

def planFlags : List Flag :=
  [⟨"query", none, .single⟩, ⟨"page", none, .single⟩, ⟨"per-page", none, .single⟩,
   ⟨"class", none, .repeatable⟩, ⟨"sort-mode", none, .single⟩, ⟨"sort-by", none, .single⟩,
   ⟨"weight", none, .repeatable⟩, ⟨"filter", none, .repeatable⟩, ⟨"facet", none, .repeatable⟩,
   confFlag, ⟨"output", some 'o', .single⟩]

/-- The flags of a command, by its name. -/
def ownFlags? : String → Option (List Flag)
  | "parse" => some []
  | "classes" => some [confFlag]
  | "plan" => some planFlags
  | "config" => some [⟨"path", some 'p', .switch⟩]
  | _ => none

/-! ### Values -/

/-- The path given for a flag, which may not be empty. Fails only for an empty path. -/
def Arguments.path? (args : Arguments) (name : String) : Option (Option String) :=
  match args.value? name with
  | some "" => none
  | path => some path

/-- The value given for a flag, read by `read`. Fails only for a value that cannot be read. -/
def Arguments.valueWith? {α : Type} (args : Arguments) (name : String) (read : String → Option α) :
    Option (Option α) :=
  match args.value? name with
  | none => some none
  | some text => (read text).map some

def integerArgument? (text : String) : Option Int64 := Text.integer? text.toList

/-- The flags of a search among arguments. -/
def PlanFlags.ofArguments? (args : Arguments) : Option PlanFlags := do
  let page ← args.valueWith? "page" integerArgument?
  let perPage ← args.valueWith? "per-page" integerArgument?
  let conf ← args.path? "conf"
  let output ← args.valueWith? "output" OutputFormat.ofName?
  return {
    page, perPage, conf
    query := (args.value? "query").getD ""
    classNames := args.values "class"
    sortMode := args.value? "sort-mode"
    sortBy := args.value? "sort-by"
    weights := args.values "weight"
    filters := args.values "filter"
    facets := args.values "facet"
    output := output.getD .text }

/-- The command of a name with arguments. Only `parse` takes an operand, the query. -/
def Command.ofArguments? (name : String) (args : Arguments) : Option Command :=
  match name, args.operands with
  | "parse", [query] => some (.parse query)
  | "classes", [] => (args.path? "conf").map .classes
  | "plan", [] => (PlanFlags.ofArguments? args).map .plan
  | "config", [] => some (.config (args.has "path"))
  | _, _ => none

/-! ### Command lines -/

/-- The invocation of the command that `operands` name, after the flags in front of its name. -/
def Invocation.ofOperands? (front : Arguments) : Option Invocation := do
  let configBefore ← front.path? "config"
  let name :: rest := front.operands | none
  let flags := sharedFlags ++ (← ownFlags? name)
  let args ← Arguments.read? flags false none rest
  if !args.wellRepeated flags then none
  let configAfter ← args.path? "config"
  let command ← Command.ofArguments? name args
  return { config := configAfter <|> configBefore, quiet := front.has "quiet" || args.has "quiet", command }

/-- What a command line asks for, if it can be understood. -/
def Intent.ofArguments? (arguments : List String) : Option Intent := do
  let front ← Arguments.read? leadingFlags true none arguments
  if !front.wellRepeated leadingFlags then none
  let _ ← front.path? "config"
  if front.has "version" then return .version
  (Invocation.ofOperands? front).map .run

end SearchClient.CommandLine
