import SearchClient.Config.Decode
import SearchClient.Proofs.Toml.KeyOrder

/-! What a configuration does not know. Decoding depends on the known sections and on the known keys in them, each of
which it does read, and on nothing else; so values at other places change nothing. Of the places of a table those that
are not known are reported, each once and in order; an unknown section is reported as a whole. -/

namespace SearchClient

/-! ### The keys that sections read -/

namespace Config

/-- Values by key that agree on the keys of a section. -/
def AgreeOn (name : String) (get get' : String → Option Toml) : Prop := ∀ key ∈ keysOf name, get key = get' key

theorem AgreeOn.refl (name : String) (get : String → Option Toml) : AgreeOn name get get := fun _ _ => rfl

end Config

section Keys
variable {get get' : String → Option Toml}

theorem QueryDefaults.ofValues?_congr (h : Config.AgreeOn "query_defaults" get get') :
    ofValues? get = ofValues? get' := by
  have hkeys : Config.keysOf "query_defaults" =
      ["page", "per_page", "class_names", "sort_mode", "sort_by", "weights", "filters", "facets"] := rfl
  simp only [Config.AgreeOn, hkeys, List.forall_mem_cons] at h
  obtain ⟨hpage, hperPage, hclassNames, hsortMode, hsortBy, hweights, hfilters, hfacets, -⟩ := h
  simp only [ofValues?, hpage, hperPage, hclassNames, hsortMode, hsortBy, hweights, hfilters, hfacets]

theorem ExcerptOptions.ofValues?_congr (h : Config.AgreeOn "excerpting" get get') :
    ofValues? get = ofValues? get' := by
  have hkeys : Config.keysOf "excerpting" =
      ["before_match", "after_match", "chunk_separator", "limit", "around", "content_methods"] := rfl
  simp only [Config.AgreeOn, hkeys, List.forall_mem_cons] at h
  obtain ⟨hbefore, hafter, hseparator, hlimit, haround, hmethods, -⟩ := h
  simp only [ofValues?, hbefore, hafter, hseparator, hlimit, haround, hmethods]

theorem ClientOptions.ofValues?_congr (h : Config.AgreeOn "client" get get') : ofValues? get = ofValues? get' := by
  have hkeys : Config.keysOf "client" = ["with_subtotals", "max_retries", "retry_sleep_time", "max_facets"] := rfl
  simp only [Config.AgreeOn, hkeys, List.forall_mem_cons] at h
  obtain ⟨hsubtotals, hretries, hsleep, hfacets, -⟩ := h
  simp only [ofValues?, hsubtotals, hretries, hsleep, hfacets]

theorem DaemonSettings.ofValues?_congr (h : Config.AgreeOn "daemon" get get') : ofValues? get = ofValues? get' := by
  have hkeys : Config.keysOf "daemon" = ["max_matches", "index_name", "conf_path", "text_fields"] := rfl
  simp only [Config.AgreeOn, hkeys, List.forall_mem_cons] at h
  obtain ⟨hmatches, hindex, hconf, hfields, -⟩ := h
  simp only [ofValues?, hmatches, hindex, hconf, hfields]

end Keys

namespace Config

/-! ### What decoding reads -/

def sections : List String := knownKeys.map Prod.fst

/-- Two values of a section, each of which may be absent, are read alike. -/
def ReadAlike (name : String) (value value' : Option Toml) : Prop :=
  Option.Rel (AgreeOn name) (sectionValues? (keysOf name) value) (sectionValues? (keysOf name) value')

theorem ReadAlike.refl (name : String) (value : Option Toml) : ReadAlike name value value := by
  unfold ReadAlike
  cases sectionValues? (keysOf name) value with
  | none => exact .none
  | some get => exact .some (.refl name get)

theorem ReadAlike.bind_congr {α : Type} {name : String} {value value' : Option Toml} (h : ReadAlike name value value')
    {ofValues? : (String → Option Toml) → Option α}
    (hcongr : ∀ {get get'}, AgreeOn name get get' → ofValues? get = ofValues? get') :
    sectionValues? (keysOf name) value >>= ofValues? = sectionValues? (keysOf name) value' >>= ofValues? := by
  unfold ReadAlike at h
  generalize sectionValues? (keysOf name) value = values at h ⊢
  generalize sectionValues? (keysOf name) value' = values' at h ⊢
  cases h with
  | none => rfl
  | some hagree => exact hcongr hagree

theorem ofTable?_congr {table table' : Dict Toml}
    (h : ∀ name ∈ sections, ReadAlike name (table.get? name) (table'.get? name)) :
    ofTable? table = ofTable? table' := by
  have hqueryDefaults := (h "query_defaults" (by decide)).bind_congr QueryDefaults.ofValues?_congr
  have hexcerpting := (h "excerpting" (by decide)).bind_congr ExcerptOptions.ofValues?_congr
  have hclient := (h "client" (by decide)).bind_congr ClientOptions.ofValues?_congr
  have hdaemon := (h "daemon" (by decide)).bind_congr DaemonSettings.ofValues?_congr
  simp only [ofTable?, hqueryDefaults, hexcerpting, hclient, hdaemon]

/-! ### Places -/

/-- The entries of a section that is a table or absent. -/
def entries? (table : Dict Toml) (name : String) : Option (List (String × Toml)) :=
  match table.get? name with
  | none => some []
  | some (.table entries) => some entries
  | some _ => none

theorem sectionValues?_of_entries? {table : Dict Toml} {name : String} {entries : List (String × Toml)}
    (h : entries? table name = some entries) (keys : List String) :
    sectionValues? keys (table.get? name) = some fun key => SortedMap.lookup key entries := by
  unfold entries? at h
  split at h
  · next habsent =>
    cases h
    rw [habsent]
    rfl
  · next hentries =>
    cases h
    rw [hentries]
    rfl
  · cases h

/-- A place in the table of a configuration: a section, or a key of a section. -/
inductive Place where
  | whole (name : String)
  | inside (name key : String)

namespace Place

def name : Place → String
  | whole name => name
  | inside name _ => name

def text : Place → String
  | whole name => name
  | inside name key => name ++ "." ++ key

def IsKnown : Place → Prop
  | whole name => name ∈ sections
  | inside name key => key ∈ keysOf name

def value? (table : Dict Toml) : Place → Option Toml
  | whole name => table.get? name
  | inside name key => entries? table name >>= SortedMap.lookup key

/-- The table with a value at a place, in place of an earlier one. A section that is absent is made, and one that is no
    table has no place for a key. -/
def put? (table : Dict Toml) (value : Toml) : Place → Option (Dict Toml)
  | whole name => some (table.insert name value)
  | inside name key => (entries? table name).map fun entries =>
      table.insert name (.table (SortedMap.insertEntry key value entries))

/-- Some value at the place makes a difference to what is decoded. -/
def IsRead (place : Place) : Prop :=
  ∃ table value table', place.put? table value = some table' ∧ ofTable? table' ≠ ofTable? table

section Put
variable {place : Place} {table table' : Dict Toml} {value : Toml}

theorem get?_of_put? (hput : place.put? table value = some table') {name : String} (hname : place.name ≠ name) :
    table'.get? name = table.get? name := by
  cases place with
  | whole name' =>
    cases hput
    exact (SortedMap.get?_insert ..).trans (if_neg hname)
  | inside name' key =>
    obtain ⟨entries, -, rfl⟩ := Option.map_eq_some_iff.mp hput
    exact (SortedMap.get?_insert ..).trans (if_neg hname)

theorem readAlike_put? (hplace : ¬place.IsKnown) (hput : place.put? table value = some table') {name : String}
    (hname : name ∈ sections) : ReadAlike name (table.get? name) (table'.get? name) := by
  by_cases heq : place.name = name
  · subst heq
    cases place with
    | whole name => exact absurd hname hplace
    | inside name key =>
      obtain ⟨entries, hentries, rfl⟩ := Option.map_eq_some_iff.mp hput
      rw [ReadAlike, SortedMap.get?_insert, Place.name, if_pos rfl, sectionValues?_of_entries? hentries]
      refine .some fun key' hkey' => ?_
      have hne : key ≠ key' := fun heq => hplace (heq ▸ hkey')
      rw [SortedMap.lookup_insertEntry, if_neg hne]
  · rw [get?_of_put? hput heq]
    exact .refl name _

theorem ofTable?_put? (hplace : ¬place.IsKnown) (hput : place.put? table value = some table') :
    ofTable? table' = ofTable? table :=
  (ofTable?_congr fun _ hname => readAlike_put? hplace hput hname).symm

end Put

/-! ### Known places are read -/

def refused : Place → Toml
  | whole _ => .bool true
  | inside _ _ => .array [.int 0]

/-- Each known section and each known key, alone in a table with a value that it does not take, keeps the table from
    being decoded. -/
theorem isNone_refused : ∀ entry ∈ knownKeys,
    (ofTable? (.ofList [(entry.1, refused (whole entry.1))])).isNone ∧
    ∀ key ∈ entry.2, (ofTable? (.ofList [(entry.1, .table [(key, refused (inside entry.1 key))])])).isNone := by
  decide +kernel

theorem isRead_iff_isKnown {place : Place} : place.IsRead ↔ place.IsKnown := by
  constructor
  · rintro ⟨table, value, table', hput, hne⟩
    by_contra hplace
    exact hne (ofTable?_put? hplace hput)
  · intro hplace
    have hempty : (ofTable? .empty).isSome := rfl
    have hread {table' : Dict Toml} (hput : place.put? .empty place.refused = some table')
        (hnone : (ofTable? table').isNone) : place.IsRead := by
      refine ⟨.empty, place.refused, table', hput, fun heq => ?_⟩
      rw [Option.isNone_iff_eq_none.mp hnone] at heq
      rw [← heq] at hempty
      cases hempty
    cases place with
    | whole name =>
      obtain ⟨entry, hentry, rfl⟩ := List.mem_map.mp hplace
      exact hread rfl (isNone_refused entry hentry).1
    | inside name key =>
      have hkey : key ∈ (SortedMap.lookup name knownKeys).getD [] := hplace
      cases hknown : SortedMap.lookup name knownKeys with
      | none =>
        rw [hknown] at hkey
        cases hkey
      | some known =>
        rw [hknown] at hkey
        exact hread rfl ((isNone_refused _ (SortedMap.mem_of_lookup hknown)).2 key hkey)

end Place

/-! ### Unknown places change nothing -/

namespace Place

def IsUnknown : Place → Prop
  | whole name => name ∉ sections
  | inside name key => name ∈ sections ∧ key ∉ keysOf name

/-- A table has room for a place unless that is inside a section that is no table. -/
def FitsIn (table : Dict Toml) : Place → Prop
  | whole _ => True
  | inside name _ => (entries? table name).isSome

instance (place : Place) : Decidable place.IsUnknown :=
  match place with
  | whole name => inferInstanceAs (Decidable (name ∉ sections))
  | inside name key => inferInstanceAs (Decidable (name ∈ sections ∧ key ∉ keysOf name))

instance (table : Dict Toml) (place : Place) : Decidable (place.FitsIn table) :=
  match place with
  | whole _ => inferInstanceAs (Decidable True)
  | inside name _ => inferInstanceAs (Decidable ((entries? table name).isSome = true))

theorem IsUnknown.not_isKnown {place : Place} (h : place.IsUnknown) : ¬place.IsKnown := by
  cases place with
  | whole name => exact h
  | inside name key => exact h.2

theorem FitsIn.exists_put? {place : Place} {table : Dict Toml} (h : place.FitsIn table) (value : Toml) :
    ∃ table', place.put? table value = some table' := by
  cases place with
  | whole name => exact ⟨_, rfl⟩
  | inside name key =>
    obtain ⟨entries, hentries⟩ := Option.isSome_iff_exists.mp h
    exact ⟨_, Option.map_eq_some_iff.mpr ⟨entries, hentries, rfl⟩⟩

theorem entries?_congr {table table' : Dict Toml} {name : String} (h : table'.get? name = table.get? name) :
    entries? table' name = entries? table name := by
  rw [entries?, entries?, h]

theorem FitsIn.of_put? {place place' : Place} {table table' : Dict Toml} {value : Toml} (hplace : place.IsUnknown)
    (hput : place.put? table value = some table') (hplace' : place'.IsUnknown) (h : place'.FitsIn table) :
    place'.FitsIn table' := by
  cases place' with
  | whole name' => trivial
  | inside name' key' =>
    by_cases hname : place.name = name'
    · subst hname
      cases place with
      | whole name => exact absurd hplace'.1 hplace
      | inside name key =>
        -- What is put inside a section leaves a table there.
        obtain ⟨entries, -, rfl⟩ := Option.map_eq_some_iff.mp hput
        rw [FitsIn, entries?, SortedMap.get?_insert, Place.name, if_pos rfl]
        rfl
    · rw [FitsIn, entries?_congr (get?_of_put? hput hname)]
      exact h

end Place

/-- The table with values at places, put there one after another. -/
def putAll? (table : Dict Toml) (additions : List (Place × Toml)) : Option (Dict Toml) :=
  additions.foldlM (fun table addition => addition.1.put? table addition.2) table

theorem exists_putAll? {additions : List (Place × Toml)} : ∀ {table : Dict Toml},
    (∀ addition ∈ additions, addition.1.IsUnknown ∧ addition.1.FitsIn table) →
      ∃ table', putAll? table additions = some table' ∧ ofTable? table' = ofTable? table := by
  induction additions with
  | nil => exact fun _ => ⟨_, rfl, rfl⟩
  | cons addition additions ih =>
    intro table h
    obtain ⟨⟨hplace, hfits⟩, hrest⟩ := List.forall_mem_cons.mp h
    obtain ⟨table', hput⟩ := hfits.exists_put? addition.2
    obtain ⟨table'', hputs, hsame⟩ := ih fun other hother =>
      ⟨(hrest other hother).1, (hrest other hother).2.of_put? hplace hput (hrest other hother).1⟩
    refine ⟨table'', ?_, hsame.trans (Place.ofTable?_put? hplace.not_isKnown hput)⟩
    rw [putAll?, List.foldlM_cons, hput]
    exact hputs

/-! ### Unknown places are reported -/

/-- The order in which places are reported: by their sections, and in a section by their keys. -/
def Place.Precedes (place place' : Place) : Prop :=
  place.name < place'.name ∨
    ∃ name key key', place = .inside name key ∧ place' = .inside name key' ∧ key < key'

def unknownPlacesIn (entry : String × Toml) : List Place :=
  if entry.1 ∈ sections then
    match entry.2 with
    | .table entries => (entries.filter fun e => e.1 ∉ keysOf entry.1).map fun e => .inside entry.1 e.1
    | _ => []
  else [.whole entry.1]

def unknownPlaces (table : Dict Toml) : List Place := table.toList.flatMap unknownPlacesIn

theorem unknownIn_eq_map (entry : String × Toml) : unknownIn entry = (unknownPlacesIn entry).map Place.text := by
  obtain ⟨name, value⟩ := entry
  unfold unknownIn unknownPlacesIn
  cases hknown : SortedMap.lookup name knownKeys with
  | none =>
    have hnotMem : name ∉ sections := SortedMap.lookup_eq_none_iff.mp hknown
    rw [if_neg hnotMem]
    rfl
  | some known =>
    have hmem : name ∈ sections := SortedMap.isSome_lookup_iff.mp (Option.isSome_of_eq_some hknown)
    have hkeys : keysOf name = known := by rw [keysOf, hknown, Option.getD_some]
    rw [if_pos hmem, hkeys]
    cases value with
    | table entries => simp [Place.text]
    | _ => rfl

theorem unknownKeys_eq_map (table : Dict Toml) : unknownKeys table = (unknownPlaces table).map Place.text := by
  rw [unknownKeys, unknownPlaces, List.map_flatMap]
  exact congrArg (table.toList.flatMap ·) (funext unknownIn_eq_map)

theorem mem_unknownPlacesIn {entry : String × Toml} {place : Place} : place ∈ unknownPlacesIn entry ↔
    place.IsUnknown ∧ (place = .whole entry.1 ∨
      ∃ entries e, place = .inside entry.1 e.1 ∧ entry.2 = .table entries ∧ e ∈ entries) := by
  obtain ⟨name, value⟩ := entry
  unfold unknownPlacesIn
  dsimp only
  split
  · next hname =>
    have hwhole : ¬(Place.whole name).IsUnknown := fun h => h hname
    cases value with
    | table entries =>
      simp only [List.mem_map, List.mem_filter, decide_eq_true_eq]
      constructor
      · rintro ⟨e, ⟨he, hkey⟩, rfl⟩
        exact ⟨⟨hname, hkey⟩, .inr ⟨entries, e, rfl, rfl, he⟩⟩
      · rintro ⟨hunknown, rfl | ⟨_, e, rfl, heq, he⟩⟩
        · exact absurd hunknown hwhole
        · cases heq
          exact ⟨e, ⟨he, hunknown.2⟩, rfl⟩
    | _ =>
      simp only [List.not_mem_nil, false_iff]
      rintro ⟨hunknown, rfl | ⟨_, _, _, heq, _⟩⟩
      · exact hwhole hunknown
      · cases heq
  · next hname =>
    rw [List.mem_singleton]
    constructor
    · rintro rfl
      exact ⟨hname, .inl rfl⟩
    · rintro ⟨hunknown, rfl | ⟨_, _, rfl, _⟩⟩
      · rfl
      · exact absurd hunknown.1 hname

theorem Place.isSome_value?_inside {table : Dict Toml} {name key : String} :
    ((inside name key).value? table).isSome ↔
      ∃ entries, table.get? name = some (.table entries) ∧ key ∈ entries.map Prod.fst := by
  show (entries? table name >>= SortedMap.lookup key).isSome ↔ _
  unfold entries?
  cases table.get? name with
  | none => simp [SortedMap.lookup]
  | some value =>
    cases value with
    | table entries => simp [← SortedMap.isSome_lookup_iff]
    | _ => simp

theorem mem_unknownPlaces {table : Dict Toml} {place : Place} :
    place ∈ unknownPlaces table ↔ place.IsUnknown ∧ (place.value? table).isSome := by
  simp only [unknownPlaces, List.mem_flatMap, mem_unknownPlacesIn]
  cases place with
  | whole name =>
    constructor
    · rintro ⟨entry, hentry, hunknown, heq | ⟨_, _, heq, _⟩⟩
      · cases heq
        exact ⟨hunknown, Option.isSome_of_eq_some (SortedMap.get?_eq_some_iff.mpr hentry)⟩
      · cases heq
    · rintro ⟨hunknown, hvalue⟩
      obtain ⟨value, hvalue⟩ := Option.isSome_iff_exists.mp hvalue
      exact ⟨(name, value), SortedMap.get?_eq_some_iff.mp hvalue, hunknown, .inl rfl⟩
  | inside name key =>
    rw [Place.isSome_value?_inside]
    constructor
    · rintro ⟨entry, hentry, hunknown, heq | ⟨entries, e, heq, htable, he⟩⟩
      · cases heq
      · cases heq
        refine ⟨hunknown, entries, ?_, List.mem_map_of_mem he⟩
        rw [← htable]
        exact SortedMap.get?_eq_some_iff.mpr hentry
    · rintro ⟨hunknown, entries, htable, hkey⟩
      obtain ⟨e, he, rfl⟩ := List.mem_map.mp hkey
      exact ⟨(name, .table entries), SortedMap.get?_eq_some_iff.mp htable, hunknown, .inr ⟨entries, e, rfl, rfl, he⟩⟩

theorem pairwise_unknownPlacesIn {entry : String × Toml} (h : entry.2.KeysInOrder) :
    (unknownPlacesIn entry).Pairwise Place.Precedes := by
  obtain ⟨name, value⟩ := entry
  unfold unknownPlacesIn
  split
  · cases value with
    | table entries =>
      have hkeys : entries.Pairwise (·.1 < ·.1) := h
      refine List.pairwise_map.mpr ((hkeys.sublist List.filter_sublist).imp fun hlt => ?_)
      exact .inr ⟨name, _, _, rfl, rfl, hlt⟩
    | _ => exact .nil
  · exact List.pairwise_singleton ..

theorem pairwise_unknownPlaces {table : Dict Toml}
    (h : ∀ name value, table.get? name = some value → value.KeysInOrder) :
    (unknownPlaces table).Pairwise Place.Precedes := by
  have hname {entry : String × Toml} {place : Place} (hplace : place ∈ unknownPlacesIn entry) :
      place.name = entry.1 := by
    rcases (mem_unknownPlacesIn.mp hplace).2 with rfl | ⟨_, _, rfl, _⟩ <;> rfl
  refine List.pairwise_flatMap.mpr ⟨fun entry hentry => ?_, table.sorted.imp fun hlt place hplace place' hplace' => ?_⟩
  · exact pairwise_unknownPlacesIn (h entry.1 entry.2 (SortedMap.get?_eq_some_iff.mpr hentry))
  · rw [← hname hplace, ← hname hplace'] at hlt
    exact .inl hlt

/-- Decoding reads exactly the known places. Whatever is put at unknown places of a table that has room for them, the
    table is decoded as before. And a text of any format that keeps keys in order has the configuration of its table,
    with a diagnostic for each unknown place that the table has, in order, and no others. -/
theorem decodes_known_reports_unknown {format : Toml.Format} (hformat : format.ReadsInOrder) :
    (∀ place : Place, place.IsRead ↔ place.IsKnown) ∧
    (∀ table additions, (∀ addition ∈ additions, addition.1.IsUnknown ∧ addition.1.FitsIn table) →
      ∃ table', putAll? table additions = some table' ∧ ofTable? table' = ofTable? table) ∧
    ∀ text table, format.read? text = some table →
      (ofText format text).value = (ofTable? table).elim (.error unusable) .ok ∧
      ∃ places : List Place,
        (ofText format text).diagnostics = places.map (fun place => .unknownConfigOption place.text) ∧
        places.Pairwise Place.Precedes ∧
        ∀ place, place ∈ places ↔ place.IsUnknown ∧ (place.value? table).isSome := by
  refine ⟨fun _ => Place.isRead_iff_isKnown, fun _ _ => exists_putAll?, fun text table htable => ?_⟩
  rw [ofText, htable]
  refine ⟨rfl, unknownPlaces table, ?_, pairwise_unknownPlaces (hformat text table htable), fun _ => mem_unknownPlaces⟩
  dsimp only
  rw [unknownKeys_eq_map, List.map_map]
  rfl

/-- A document with unknown keys in a known section, of which one is a date, and with an unknown section. -/
def withTelemetry : String :=
  "[client]\nmax_retries = 2\nsince = 1979-05-27\nfinder_methods = []\n\n[telemetry]\nenabled = true\n"

def telemetryTable : Dict Toml :=
  .ofList [("client", .table [("finder_methods", .array []), ("max_retries", .int 2),
      ("since", .dateTime { date := some ⟨1979, 5, 27⟩ })]),
    ("telemetry", .table [("enabled", .bool true)])]

/-- Another unknown section, and a time under an unknown key of a known section that is absent, change nothing; the
    document is loaded, and the three unknown places of it are reported. -/
theorem decodes_known_reports_unknown_withTelemetry :
    Toml.Format.standard.ReadsInOrder ∧ Toml.Format.standard.read? withTelemetry = some telemetryTable ∧
    (∃ table', putAll? telemetryTable [(.whole "limits", .int 3),
        (.inside "daemon" "restart", .dateTime { time := some { hour := 7, minute := 32, second := 0 } })] = some table' ∧
      ofTable? table' = ofTable? telemetryTable) ∧
    (∃ config, (ofText .standard withTelemetry).value = .ok config ∧ config.client.maxRetries = 2) ∧
    ∃ places : List Place,
      (ofText .standard withTelemetry).diagnostics = places.map (fun place => .unknownConfigOption place.text) ∧
      .inside "client" "since" ∈ places ∧ .inside "client" "finder_methods" ∈ places ∧ .whole "telemetry" ∈ places := by
  have hformat := Toml.Format.standard_readsInOrder
  have htable : Toml.Format.standard.read? withTelemetry = some telemetryTable := by decide +kernel
  obtain ⟨-, hput, hreports⟩ := decodes_known_reports_unknown hformat
  obtain ⟨hvalue, places, hdiagnostics, -, hmem⟩ := hreports _ _ htable
  exact ⟨hformat, htable, hput _ _ (by decide), ⟨_, hvalue, rfl⟩, places, hdiagnostics, (hmem _).mpr (by decide),
    (hmem _).mpr (by decide), (hmem _).mpr (by decide)⟩

end Config
end SearchClient
