import SearchClient.Query.Translate
import SearchClient.Search.Hit
import SearchClient.Search.Retry

/-! Excerpts of hits. For each hit and each group of field names, the content of the first field that the
    record has is sent to the daemon, all of it in one call; the excerpts come back in the same order. A group
    without such a field sends an empty text, so every hit has as many texts as there are groups. -/

namespace SearchClient
variable {σ E : Type}

/-- The first field of a group that a record has, with its content. -/
def selectField (host : Host σ E) (entity : E) (group : List String) : Option (String × String) :=
  group.findSome? fun name => (host.field? entity name).map (name, ·)

/-- The selected fields of a hit, one for each group. -/
def selections (host : Host σ E) (groups : List (List String)) (hit : Hit E) : List (Option (String × String)) :=
  groups.map (selectField host hit.entity)

/-- The text that is sent for a selection. -/
def excerptText : Option (String × String) → String
  | some (_, text) => Query.sanitize text
  | none => ""

/-- A hit with the excerpts of its selected fields. Of two groups that select one field the later counts. -/
def Hit.withExcerpts (hit : Hit E) (slots : List (Option (String × String) × String)) : Hit E :=
  { hit with excerpts := slots.foldl (fun excerpts slot =>
      match slot.1 with
      | some (field, _) => excerpts.insert field slot.2
      | none => excerpts) hit.excerpts }

/-! ### Sharing out a reply -/

/-- Adds an item to the group that is being filled, which is finished as soon as it has the size. -/
def addToChunk {α : Type} (size : Nat) (filled : List (List α) × List α) (item : α) : List (List α) × List α :=
  let current := filled.2 ++ [item]
  if current.length = size then (filled.1 ++ [current], []) else (filled.1, current)

/-- Splits items into groups of a size, one after another; the last one may be smaller. -/
def chunks {α : Type} (size : Nat) (items : List α) : List (List α) :=
  let (finished, current) := items.foldl (addToChunk size) ([], [])
  if current.isEmpty then finished else finished ++ [current]

/-- The hits with the excerpts of one group of slots each. -/
def excerptEach : List (Hit E) → List (List (Option (String × String) × String)) → List (Hit E)
  | hit :: hits, slots :: groups => hit.withExcerpts slots :: excerptEach hits groups
  | hits, _ => hits

theorem map_excerptEach {β : Type} {f : Hit E → β} (hf : ∀ hit slots, f (Hit.withExcerpts hit slots) = f hit) :
    ∀ (hits : List (Hit E)) (groups : List (List (Option (String × String) × String))),
      (excerptEach hits groups).map f = hits.map f
  | [], _ => rfl
  | _ :: _, [] => rfl
  | hit :: hits, slots :: groups => by
    rw [excerptEach, List.map_cons, List.map_cons, hf, map_excerptEach hf hits]

theorem getElem?_excerptEach {hits : List (Hit E)} {groups : List (List (Option (String × String) × String))} {i : Nat}
    {hit : Hit E} {slots : List (Option (String × String) × String)} (hhit : hits[i]? = some hit)
    (hslots : groups[i]? = some slots) : (excerptEach hits groups)[i]? = some (hit.withExcerpts slots) := by
  induction hits generalizing groups i with
  | nil => cases hhit
  | cons first hits ih =>
    cases groups with
    | nil => cases hslots
    | cons group groups =>
      cases i with
      | zero =>
        cases hhit
        cases hslots
        rfl
      | succ i => exact ih hhit hslots

/-- Adds excerpts of the terms of a translated query to hits. Nothing is sent without hits or groups. -/
def excerptHits (host : Host σ E) (retry : RetryPolicy) (options : ExcerptOptions) (index query : String)
    (hits : List (Hit E)) : Act σ (List (Hit E)) := do
  if hits.isEmpty || options.contentMethods.isEmpty then return hits
  let selected := hits.flatMap (selections host options.contentMethods)
  let texts := selected.map excerptText
  let call : ExcerptCall :=
    { texts, index, query := Query.highlightTerms query, options := options.toHighlightOptions }
  let excerpts ← retry.run "build_excerpts" (Act.onHost (host.buildExcerpts call))
  if excerpts.length ≠ texts.length then throw (.excerptCount excerpts.length texts.length)
  return excerptEach hits (chunks options.contentMethods.length (selected.zip excerpts))

end SearchClient
