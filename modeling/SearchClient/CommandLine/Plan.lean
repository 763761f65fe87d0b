import SearchClient.Options.Basic
import SearchClient.Text.Number

/-! The flags that describe a search on the command line, and the options that they stand for. Weights are
    given as `FIELD=WEIGHT`, and filters as `FIELD=VALUE`, as `FIELD=A,B` for a choice of values, or as
    `FIELD=MIN..MAX` for a range. -/

namespace SearchClient.CommandLine
open Text

inductive OutputFormat where
  | text
  | json
deriving DecidableEq

/-- The format that a name stands for, in any case of letters. -/
def OutputFormat.ofName? (name : String) : Option OutputFormat :=
  let letters := name.toList.map Char.toLower
  if letters == "text".toList then some .text
  else if letters == "json".toList then some .json
  else none

/-- The flags of a search. -/
structure PlanFlags where
  query : String := ""
  page : Option Int64 := none
  perPage : Option Int64 := none
  classNames : List String := []
  sortMode : Option String := none
  sortBy : Option String := none
  weights : List String := []
  filters : List String := []
  facets : List String := []
  /-- The daemon configuration, in place of the configured one. -/
  conf : Option String := none
  output : OutputFormat := .text

/-- Why flags stand for no options. -/
inductive FlagFault where
  /-- A weight or a filter without a field or without an equals sign. -/
  | notPair (arg : String)
  /-- A weight without a number. -/
  | noWeight (arg : String)
  /-- A weight that is not a number. -/
  | notNumber (arg : String)
deriving DecidableEq

namespace FlagFault

def message : FlagFault → String
  | .notPair arg => "Expected FIELD=VALUE, got '" ++ arg ++ "'"
  | .noWeight arg | .notNumber arg => "Invalid weight in '" ++ arg ++ "'"

/-- What is behind a fault. -/
def cause? : FlagFault → Option String
  | .notPair _ => none
  | .noWeight _ => some "cannot parse float from empty string"
  | .notNumber _ => some "invalid float literal"

end FlagFault

/-- A field and what stands after the first equals sign, both without white space around them. -/
def splitPair (arg : String) : Except FlagFault (String × List Char) :=
  match cut? ['='] arg.toList with
  | some (field, value) =>
    if (trim field).isEmpty then .error (.notPair arg) else .ok (String.ofList (trim field), trim value)
  | none => .error (.notPair arg)

/-- A value on the command line: an integer, another number, or a text. -/
def scalarValue (value : List Char) : RawValue :=
  match Scalar.ofNumber? value with
  | some number => number.toRaw
  | none => .str (String.ofList value)

/-- A value with commas is a choice of values, of which blank ones are left out. Ranges stay texts. -/
def filterValue (value : List Char) : RawValue :=
  if value.contains ',' then
    .list ((((pieces (· == ',') value).map trim).filter fun v => !v.isEmpty).map scalarValue)
  else scalarValue value

/-- The field and the weight of a flag. -/
def weightEntry (arg : String) : Except FlagFault (String × RawValue) := do
  let (field, value) ← splitPair arg
  if value.isEmpty then throw (.noWeight arg)
  match double? value with
  | some weight => return (field, .float weight)
  | none => throw (.notNumber arg)

/-- The field and the filter of a flag. -/
def filterEntry (arg : String) : Except FlagFault (String × RawValue) := do
  let (field, value) ← splitPair arg
  return (field, filterValue value)

/-- A map, of which a later entry counts. -/
def mapValue (entries : List (String × RawValue)) : RawValue := .map (RawValue.dict entries).toList

def nameList (names : List String) : RawValue := .list (names.map .str)

/-- An option that is absent unless there are items for it. -/
def unlessEmpty {α : Type} (items : List α) (value : List α → RawValue) : Option RawValue :=
  if items.isEmpty then none else some (value items)

/-- The options that the flags stand for. -/
def PlanFlags.rawOptions (flags : PlanFlags) : Except FlagFault RawOptions := do
  let weights ← flags.weights.mapM weightEntry
  let filters ← flags.filters.mapM filterEntry
  let entries : List (String × Option RawValue) :=
    [("query", some (.str flags.query)),
     ("page", flags.page.map .int),
     ("per_page", flags.perPage.map .int),
     ("class_names", unlessEmpty flags.classNames nameList),
     ("sort_mode", flags.sortMode.map .str),
     ("sort_by", flags.sortBy.map .str),
     ("weights", unlessEmpty weights mapValue),
     ("filters", unlessEmpty filters mapValue),
     ("facets", unlessEmpty flags.facets nameList)]
  return .ofList (entries.filterMap fun (name, value) => value.map (name, ·))

end SearchClient.CommandLine
