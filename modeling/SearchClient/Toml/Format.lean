import SearchClient.Toml.Printer
import SearchClient.Toml.Reader

/-! Formats in which tables are kept as texts. What loads and saves configurations works with any format, of which it
    relies on little; the program itself keeps them as TOML. -/

namespace SearchClient.Toml

/-- A reader and a printer of tables. -/
structure Format where
  /-- The table of a text, if the text has this format. -/
  read? : String → Option (Dict Toml)
  /-- The text of a table with the given entries. -/
  write : List (String × Toml) → String

/-- TOML. -/
def Format.standard : Format where
  read? text := document? text.toList
  write entries := String.ofList (writeDocument entries)

end SearchClient.Toml
