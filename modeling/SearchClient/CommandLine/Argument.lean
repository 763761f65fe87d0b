/-! The grammar of command lines. A flag has a long name after two hyphens, and perhaps a letter after one;
    letters may be run together. The value of a flag follows in the same argument or is the next one, which
    then may not look like a flag. Everything else is an operand, and so is all that follows `--`. -/

namespace SearchClient.CommandLine

/-- How a flag is given. -/
inductive FlagKind where
  /-- At most once, without a value. -/
  | switch
  /-- Any number of times, without a value. -/
  | counter
  /-- Once, and nothing after it is read. -/
  | final
  /-- At most once, with a value. -/
  | single
  /-- Any number of times, with a value each. -/
  | repeatable
deriving DecidableEq

structure Flag where
  name : String
  letter : Option Char := none
  kind : FlagKind

/-- A flag of a command line, by its long name, with its value. -/
structure Given where
  name : String
  value : Option String := none
deriving DecidableEq

/-- Whether flags of a kind have a value. -/
def FlagKind.takesValue : FlagKind → Bool
  | .single | .repeatable => true
  | _ => false

/-- Whether flags of a kind may be repeated. -/
def FlagKind.mayRepeat : FlagKind → Bool
  | .counter | .repeatable => true
  | _ => false

/-- Whether an argument looks like a flag. A lone hyphen does not. -/
def looksLikeFlag (arg : List Char) : Bool := arg.head? == some '-' && arg != ['-']

/-- The flags of one argument, and what is still to be read. -/
structure Reading where
  given : List Given
  /-- The last flag, whose value is the next argument. -/
  pending : Option String := none
  /-- Nothing more is read. -/
  done : Bool := false

/-- The flags in a run of letters. After a letter that takes a value the rest is that value, with or without
    an equals sign in front. -/
def Reading.ofLetters? (flags : List Flag) : List Char → Option Reading
  | [] => some { given := [] }
  | c :: cs => do
    let flag ← flags.find? fun flag => flag.letter == some c
    if flag.kind.takesValue then
      match cs with
      | [] => return { given := [], pending := some flag.name }
      | '=' :: value => return { given := [⟨flag.name, some (String.ofList value)⟩] }
      | value => return { given := [⟨flag.name, some (String.ofList value)⟩] }
    else if flag.kind == .final then return { given := [⟨flag.name, none⟩], done := true }
    else
      let rest ← ofLetters? flags cs
      return { rest with given := ⟨flag.name, none⟩ :: rest.given }

/-- A flag given by its long name, perhaps with a value after an equals sign. -/
def Reading.ofName? (flags : List Flag) (text : List Char) : Option Reading := do
  let name := String.ofList (text.takeWhile (· != '='))
  let flag ← flags.find? fun flag => flag.name == name
  match flag.kind.takesValue, text.dropWhile (· != '=') with
  | true, [] => return { given := [], pending := some name }
  | true, _ :: value => return { given := [⟨name, some (String.ofList value)⟩] }
  | false, [] => return { given := [⟨name, none⟩], done := flag.kind == .final }
  | false, _ => none

/-- The flags of an argument that looks like one. -/
def Reading.ofArgument? (flags : List Flag) : List Char → Option Reading
  | '-' :: '-' :: text => ofName? flags text
  | '-' :: letters => ofLetters? flags letters
  | _ => none

/-- The flags and operands of a list of arguments. -/
structure Arguments where
  given : List Given := []
  operands : List String := []

/-- The flags and operands of a list of arguments, in any order. If `leading` holds, reading stops in front of
    the first operand, and all arguments from there on are operands. `pending` is a flag that waits for its
    value. -/
def Arguments.read? (flags : List Flag) (leading : Bool) (pending : Option String) :
    List String → Option Arguments
  | [] => if pending.isSome then none else some {}
  | arg :: rest =>
    match pending with
    | some name => do
      if looksLikeFlag arg.toList then none
      let args ← read? flags leading none rest
      return { args with given := ⟨name, some arg⟩ :: args.given }
    | none => do
      if arg == "--" then return { operands := if leading then arg :: rest else rest }
      if looksLikeFlag arg.toList then
        let reading ← Reading.ofArgument? flags arg.toList
        if reading.done then return { given := reading.given }
        let args ← read? flags leading reading.pending rest
        return { args with given := reading.given ++ args.given }
      if leading then return { operands := arg :: rest }
      let args ← read? flags leading none rest
      return { args with operands := arg :: args.operands }

namespace Arguments

/-- The values given for a flag, in order. -/
def values (args : Arguments) (name : String) : List String :=
  (args.given.filter fun g => g.name == name).filterMap (·.value)

/-- The value given for a flag. -/
def value? (args : Arguments) (name : String) : Option String := (args.values name).head?

def has (args : Arguments) (name : String) : Bool := args.given.any fun g => g.name == name

/-- Whether no flag is given more often than its kind allows. -/
def wellRepeated (flags : List Flag) (args : Arguments) : Bool :=
  flags.all fun flag => flag.kind.mayRepeat || (args.given.filter fun g => g.name == flag.name).length ≤ 1

end Arguments
end SearchClient.CommandLine
