import SearchClient.Json.Sorted
import SearchClient.Request.Basic
import SearchClient.Value.Json

/-! The JSON form of requests. -/

namespace SearchClient

def Request.toJson (request : Request) : Json :=
  .obj [("sort_mode", .str request.sortMode.name),
    ("sort_by", Json.ofOptional request.sortBy),
    ("filters", .arr (request.filters.map fun (field, filter) =>
      .obj [("attribute", .str field), ("value", filter.toJson)])),
    ("field_weights", Json.ofDict .float request.fieldWeights),
    ("offset", .int request.offset),
    ("limit", .int request.limit),
    ("max_matches", .int request.maxMatches),
    ("group_by", Json.ofOptional request.groupBy),
    ("group_sort", Json.ofOptional request.groupSort)]

end SearchClient
