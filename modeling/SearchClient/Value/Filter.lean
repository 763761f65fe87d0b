import SearchClient.Value.Scalar

/-! Attribute filters. The kind of a filter shows in the shape of the value that supplies it: a scalar is
    compared, a list names the values to choose from, and a map with `min` and `max`, or a text such as
    `10..20`, gives inclusive bounds. -/

namespace SearchClient

/-- A condition on one attribute. -/
inductive Filter where
  | equals (value : Scalar)
  | anyOf (values : List Scalar)
  /-- The attribute lies between the bounds, which it may reach. -/
  | range (min max : Scalar)
deriving DecidableEq

namespace Filter

/-- The range that a text such as `10..20` gives: two numbers around the first `..`. -/
def range? (text : String) : Option Filter := do
  let (low, high) ← Text.cut? ['.', '.'] text.toList
  let min ← Scalar.ofNumber? low
  let max ← Scalar.ofNumber? high
  return .range min max

/-- The filter of a loosely typed value. Nulls, lists with anything but scalars, and maps without both
    bounds give none. -/
def ofRaw? : RawValue → Option Filter
  | .list items => (items.mapM Scalar.ofRaw?).map .anyOf
  | .map entries => do
    let bounds := RawValue.dict entries
    let min ← bounds.get? "min" >>= Scalar.ofRaw?
    let max ← bounds.get? "max" >>= Scalar.ofRaw?
    return .range min max
  | .str s => some ((range? s).getD (.equals (.str s)))
  | value => (Scalar.ofRaw? value).map .equals

/-- The shape from which a filter is read. -/
def toRaw : Filter → RawValue
  | .equals value => value.toRaw
  | .anyOf values => .list (values.map Scalar.toRaw)
  | .range min max => .map [("max", max.toRaw), ("min", min.toRaw)]

/-- Equality of filters, numerical for floating-point numbers. -/
def same : Filter → Filter → Bool
  | .equals a, .equals b => a.same b
  | .anyOf as, .anyOf bs => as.length == bs.length && (as.zip bs).all fun (a, b) => a.same b
  | .range a b, .range c d => a.same c && b.same d
  | _, _ => false

end Filter
end SearchClient
