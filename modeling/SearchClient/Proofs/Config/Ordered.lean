import SearchClient.Config.Write
import SearchClient.Config.Decode
import SearchClient.Proofs.SortedMap

/-! Tables and maps with their keys in order. Reading a document gives tables of that form, whatever the order in which
    the entries were written. -/

namespace SearchClient

namespace Toml

/-! ### Tables in order -/

mutual
/-- A value with the keys of all its tables in order; of several entries with one key the last one counts. -/
def ordered : Toml → Toml
  | .array items => .array (orderedItems items)
  | .table entries => .table (SortedMap.ofList (orderedEntries entries)).toList
  | value => value

def orderedItems : List Toml → List Toml
  | [] => []
  | item :: rest => item.ordered :: orderedItems rest

def orderedEntries : List (String × Toml) → List (String × Toml)
  | [] => []
  | (key, value) :: rest => (key, value.ordered) :: orderedEntries rest
end

theorem orderedItems_eq_map : ∀ items : List Toml, orderedItems items = items.map ordered
  | [] => rfl
  | item :: rest => by rw [orderedItems, List.map_cons, orderedItems_eq_map rest]

theorem orderedEntries_eq_map :
    ∀ entries : List (String × Toml), orderedEntries entries = entries.map fun e => (e.1, e.2.ordered)
  | [] => rfl
  | (key, value) :: rest => by rw [orderedEntries, List.map_cons, orderedEntries_eq_map rest]

theorem entriesToRaw_eq_map :
    ∀ entries : List (String × Toml), entriesToRaw entries = entries.map fun e => (e.1, e.2.toRaw)
  | [] => rfl
  | (key, value) :: rest => by rw [entriesToRaw, List.map_cons, entriesToRaw_eq_map rest]

/-- The table of entries, with the keys of all tables in order. -/
def dict (entries : List (String × Toml)) : Dict Toml := (SortedMap.ofList entries).mapValues ordered

theorem ordered_table (entries : List (String × Toml)) : (Toml.table entries).ordered = .table (dict entries).toList := by
  rw [ordered, orderedEntries_eq_map, SortedMap.ofList_map_snd, dict]

/-- What a format writes of entries is read as the table of those entries. This is all that saving and loading rely on;
    in TOML, arrays nested deeper than the reader allows are written but not read. -/
def Format.ReadsBack (format : Format) (entries : List (String × Toml)) : Prop :=
  format.read? (format.write entries) = some (dict entries)

/-- In TOML the characters that are written are those that are read. -/
theorem Format.readsBack_standard_iff {entries : List (String × Toml)} :
    Format.standard.ReadsBack entries ↔ document? (writeDocument entries) = some (dict entries) := by
  show document? (String.ofList (writeDocument entries)).toList = some (dict entries) ↔ _
  rw [String.toList_ofList]

end Toml

namespace RawValue

/-! ### Maps in order -/

mutual
/-- A value with the keys of all its maps in order; of several entries with one key the last one counts. -/
def ordered : RawValue → RawValue
  | .list items => .list (orderedItems items)
  | .map entries => .map (SortedMap.ofList (orderedEntries entries)).toList
  | value => value

def orderedItems : List RawValue → List RawValue
  | [] => []
  | item :: rest => item.ordered :: orderedItems rest

def orderedEntries : List (String × RawValue) → List (String × RawValue)
  | [] => []
  | (key, value) :: rest => (key, value.ordered) :: orderedEntries rest
end

theorem orderedEntries_eq_map :
    ∀ entries : List (String × RawValue), orderedEntries entries = entries.map fun e => (e.1, e.2.ordered)
  | [] => rfl
  | (key, value) :: rest => by rw [orderedEntries, List.map_cons, orderedEntries_eq_map rest]

end RawValue

namespace Toml

/-! ### Loosely typed values in tables -/

theorem dict_toRaw (entries : List (String × Toml)) :
    (dict entries).mapValues toRaw = SortedMap.ofList (entriesToRaw (orderedEntries entries)) := by
  rw [entriesToRaw_eq_map, SortedMap.ofList_map_snd, orderedEntries_eq_map, SortedMap.ofList_map_snd, dict]

mutual
/-- What is read of a loosely typed value that was written is that value with its maps in order. -/
theorem toRaw_ordered_of_ofRaw? : ∀ (value : RawValue) {t : Toml}, ofRaw? value = some t → t.ordered.toRaw = value.ordered
  | .null, _, h => by cases h
  | .bool _, _, h | .int _, _, h | .float _, _, h | .str _, _, h => by cases h; rfl
  | .list items, _, h => by
    obtain ⟨ts, hts, rfl⟩ := Option.map_eq_some_iff.mp h
    rw [ordered, toRaw, listToRaw_of_listOfRaw? items hts, RawValue.ordered]
  | .map entries, _, h => by
    obtain ⟨ts, hts, rfl⟩ := Option.map_eq_some_iff.mp h
    rw [ordered_table, dict, SortedMap.ofList_toList, toRaw, entriesToRaw_eq_map, RawValue.ordered,
      ← entriesToRaw_of_entriesOfRaw? entries hts, ← dict_toRaw]
    rfl

theorem listToRaw_of_listOfRaw? : ∀ (items : List RawValue) {ts : List Toml}, listOfRaw? items = some ts →
    listToRaw (orderedItems ts) = RawValue.orderedItems items
  | [], _, h => by cases h; rfl
  | item :: rest, _, h => by
    simp only [listOfRaw?, Option.bind_eq_bind, Option.bind_eq_some_iff] at h
    obtain ⟨t, ht, ts, hts, h⟩ := h
    cases h
    rw [orderedItems, listToRaw, RawValue.orderedItems, toRaw_ordered_of_ofRaw? item ht,
      listToRaw_of_listOfRaw? rest hts]

theorem entriesToRaw_of_entriesOfRaw? : ∀ (entries : List (String × RawValue)) {ts : List (String × Toml)},
    entriesOfRaw? entries = some ts → entriesToRaw (orderedEntries ts) = RawValue.orderedEntries entries
  | [], _, h => by cases h; rfl
  | (key, value) :: rest, _, h => by
    simp only [entriesOfRaw?, Option.bind_eq_bind, Option.bind_eq_some_iff] at h
    obtain ⟨t, ht, ts, hts, h⟩ := h
    cases h
    rw [orderedEntries, entriesToRaw, RawValue.orderedEntries, toRaw_ordered_of_ofRaw? value ht,
      entriesToRaw_of_entriesOfRaw? rest hts]
end

end Toml
end SearchClient
