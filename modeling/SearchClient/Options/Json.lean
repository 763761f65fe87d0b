import SearchClient.Json.Sorted
import SearchClient.Options.Basic
import SearchClient.Value.Json

/-! The JSON form of options. -/

namespace SearchClient

def SearchOptions.toJson (options : SearchOptions) : Json :=
  .obj [("query", .str options.query),
    ("page", .int options.page),
    ("per_page", .int options.perPage),
    ("class_names", .arr (options.classNames.map .str)),
    ("sort_mode", .str options.sortMode),
    ("sort_by", Json.ofOptional options.sortBy),
    ("weights", Json.ofDict .float options.weights),
    ("filters", Json.ofDict Filter.toJson options.filters),
    ("facets", .arr (options.facets.map .str))]

end SearchClient
