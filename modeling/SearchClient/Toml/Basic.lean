import SearchClient.Toml.DateTime

/-! TOML values. -/

namespace SearchClient

/-- A TOML value. Tables that were read have their keys in order; tables to be written keep the order of
    their entries. -/
inductive Toml where
  | str (s : String)
  | int (n : Int64)
  | float (x : Double)
  | bool (b : Bool)
  | dateTime (d : DateTime)
  | array (items : List Toml)
  | table (entries : List (String × Toml))

namespace Toml

/-! ### Equality -/

mutual
/-- Whether two values are equal, part by part. -/
def beq : Toml → Toml → Bool
  | .str s, .str t => s == t
  | .int m, .int n => m == n
  | .float x, .float y => x == y
  | .bool a, .bool b => a == b
  | .dateTime d, .dateTime e => d == e
  | .array items, .array items' => beqItems items items'
  | .table entries, .table entries' => beqEntries entries entries'
  | _, _ => false

def beqItems : List Toml → List Toml → Bool
  | [], [] => true
  | item :: rest, item' :: rest' => item.beq item' && beqItems rest rest'
  | _, _ => false

def beqEntries : List (String × Toml) → List (String × Toml) → Bool
  | [], [] => true
  | (key, value) :: rest, (key', value') :: rest' => key == key' && value.beq value' && beqEntries rest rest'
  | _, _ => false
end

mutual
theorem beq_eq_true_iff : ∀ (t u : Toml), t.beq u = true ↔ t = u
  | .array items, u => by
    cases u with
    | array items' => rw [beq, beqItems_eq_true_iff items items', array.injEq]
    | _ => simp [beq]
  | .table entries, u => by
    cases u with
    | table entries' => rw [beq, beqEntries_eq_true_iff entries entries', table.injEq]
    | _ => simp [beq]
  | .str _, u | .int _, u | .float _, u | .bool _, u | .dateTime _, u => by cases u <;> simp [beq]

theorem beqItems_eq_true_iff : ∀ items items' : List Toml, beqItems items items' = true ↔ items = items'
  | [], items' => by cases items' <;> simp [beqItems]
  | _ :: _, [] => by simp [beqItems]
  | item :: rest, item' :: rest' => by
    rw [beqItems, Bool.and_eq_true, beq_eq_true_iff item item', beqItems_eq_true_iff rest rest', List.cons.injEq]

theorem beqEntries_eq_true_iff :
    ∀ entries entries' : List (String × Toml), beqEntries entries entries' = true ↔ entries = entries'
  | [], entries' => by cases entries' <;> simp [beqEntries]
  | _ :: _, [] => by simp [beqEntries]
  | (key, value) :: rest, (key', value') :: rest' => by
    rw [beqEntries, Bool.and_eq_true, Bool.and_eq_true, beq_iff_eq, beq_eq_true_iff value value',
      beqEntries_eq_true_iff rest rest', List.cons.injEq, Prod.mk.injEq]
end

instance : DecidableEq Toml := fun t u => decidable_of_iff _ (beq_eq_true_iff t u)

end Toml
end SearchClient
