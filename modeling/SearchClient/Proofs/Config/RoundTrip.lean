import SearchClient.Proofs.Config.Ordered
import SearchClient.Proofs.Reported

/-! Saving and loading. Each section reads back what it wrote: the keys that it writes are among those that it knows, and
    the value of each key is read as it was. Only a key that was not written gets its default instead. -/

namespace SearchClient

/-! ### Values of keys -/

namespace Toml

theorem natBelow?_ofNat? {bound n : Nat} {t : Toml} (h : ofNat? n = some t) (hbound : n < bound) :
    natBelow? bound t.ordered = some n := by
  unfold ofNat? at h
  split at h
  · next hmax =>
    cases h
    have hint : (Int64.ofNat n).toInt = n := Int64.toInt_ofNat_of_lt (by rw [Int64.toInt_maxValue] at hmax; omega)
    simp [ordered, natBelow?, hint, hbound]
  · cases h

theorem natBelow?_size_ofNat? {n : Nat} {t : Toml} (h : ofNat? n = some t) :
    natBelow? UInt64.size t.ordered = some n := by
  refine natBelow?_ofNat? h ?_
  unfold ofNat? at h
  split at h
  · next hmax =>
    rw [Int64.toInt_maxValue] at hmax
    simp only [UInt64.size]
    omega
  · cases h

theorem listOf?_array {α : Type} {item? : Toml → Option α} {f : α → Toml} (h : ∀ a, item? (f a).ordered = some a)
    (as : List α) : listOf? item? (Toml.array (as.map f)).ordered = some as := by
  have hitems : (item? ∘ ordered) ∘ f = fun a => pure (id a) := funext h
  rw [ordered, orderedItems_eq_map, listOf?, List.mapM_map, List.mapM_map, hitems, List.mapM_pure, List.map_id]
  rfl

theorem listOf?_ofNames (names : List String) : listOf? str? (ofNames names).ordered = some names :=
  listOf?_array (fun _ => rfl) names

theorem dictOf?_table {α : Type} {value? : Toml → Option α} {f : α → Toml} (h : ∀ a, value? (f a).ordered = some a)
    (m : Dict α) : dictOf? value? (Toml.table (m.mapValues f).toList).ordered = some m := by
  have hentries : (fun e : String × Toml => (value? e.2).map (e.1, ·)) ∘ (fun e : String × α => (e.1, (f e.2).ordered)) =
      fun e => pure (id e) := funext fun e => by simp [h]
  have hordered : (dict (m.mapValues f).toList).toList = m.toList.map fun e => (e.1, (f e.2).ordered) := by
    rw [dict, SortedMap.ofList_toList]
    exact List.map_map
  rw [ordered_table, dictOf?, hordered, List.mapM_map, hentries, List.mapM_pure, List.map_id]
  exact congrArg some (SortedMap.ofList_toList m)

theorem dictOf?_entriesOfRaw? {m : Dict RawValue} {entries : List (String × Toml)}
    (h : entriesOfRaw? m.toList = some entries) :
    dictOf? (fun v => some v.toRaw) (Toml.table entries).ordered = some (m.mapValues RawValue.ordered) := by
  have hentries : (fun e : String × Toml => (some e.2.toRaw).map (e.1, ·)) = fun e => pure (e.1, e.2.toRaw) := rfl
  rw [ordered_table, dictOf?, hentries, List.mapM_pure]
  show some (SortedMap.ofList ((dict entries).toList.map _)) = _
  rw [SortedMap.ofList_map_snd, SortedMap.ofList_toList, dict_toRaw, entriesToRaw_of_entriesOfRaw? _ h,
    RawValue.orderedEntries_eq_map, SortedMap.ofList_map_snd, SortedMap.ofList_toList]

@[simp] theorem str?_str (s : String) : str? (Toml.str s).ordered = some s := rfl

@[simp] theorem bool?_bool (b : Bool) : bool? (Toml.bool b).ordered = some b := rfl

@[simp] theorem double?_float (x : Double) : double? (Toml.float x).ordered = some x := rfl

end Toml

/-! ### Sections -/

namespace Config

/-- What is read for a key of a section with given entries. -/
def readValue? (entries : List (String × Toml)) (key : String) : Option Toml :=
  (SortedMap.lookup key entries).map Toml.ordered

@[simp] theorem readValue?_nil (key : String) : readValue? [] key = none := rfl

@[simp] theorem readValue?_cons (key key' : String) (value : Toml) (entries : List (String × Toml)) :
    readValue? ((key', value) :: entries) key = if key' = key then some value.ordered else readValue? entries key :=
  apply_ite (Option.map Toml.ordered) ..

theorem get?_dict {entries : List (String × Toml)} (h : (entries.map Prod.fst).Nodup) :
    (Toml.dict entries).get? = readValue? entries := by
  funext key
  rw [Toml.dict, SortedMap.get?_mapValues, SortedMap.get?_ofList_eq_lookup h, readValue?]

theorem nodup_keysOf (name : String) : (keysOf name).Nodup := by
  simp only [keysOf, knownKeys, SortedMap.lookup]
  split_ifs <;> decide

/-- A section whose entries are read as a value: it is known, and knows the key of each entry. -/
structure IsRead {α : Type} (name : String) (ofValues? : (String → Option Toml) → Option α)
    (entries : List (String × Toml)) (value : α) : Prop where
  known : (SortedMap.lookup name knownKeys).isSome
  keys : (entries.map Prod.fst).Sublist (keysOf name)
  value : ofValues? (readValue? entries) = some value

namespace IsRead
variable {α : Type} {name : String} {ofValues? : (String → Option Toml) → Option α} {entries : List (String × Toml)}
  {value : α}

theorem bind_sectionValues? (h : IsRead name ofValues? entries value) :
    sectionValues? (keysOf name) (some (Toml.table entries).ordered) >>= ofValues? = some value := by
  have hvalues : sectionValues? (keysOf name) (some (Toml.table entries).ordered) = some (readValue? entries) := by
    rw [Toml.ordered_table, ← get?_dict (h.keys.nodup (nodup_keysOf name))]
    rfl
  rw [hvalues, ← h.value]
  rfl

theorem unknownIn_eq_nil (h : IsRead name ofValues? entries value) :
    unknownIn (name, (Toml.table entries).ordered) = [] := by
  obtain ⟨known, hknown⟩ := Option.isSome_iff_exists.mp h.known
  have hkeys : keysOf name = known := by rw [keysOf, hknown, Option.getD_some]
  rw [Toml.ordered_table, unknownIn, hknown]
  refine List.map_eq_nil_iff.mpr (List.filter_eq_nil_iff.mpr fun e he => ?_)
  have hmem : e.1 ∈ (SortedMap.ofList entries).keys := by
    obtain ⟨entry, hentry, rfl⟩ := List.mem_map.mp he
    exact List.mem_map.mpr ⟨entry, hentry, rfl⟩
  simpa using hkeys ▸ h.keys.subset (SortedMap.mem_keys_ofList.mp hmem)

end IsRead
end Config

theorem QueryDefaults.isRead {d : QueryDefaults} {entries : List (String × Toml)} (h : d.toToml? = some entries) :
    Config.IsRead "query_defaults" ofValues? entries { d with
      sortBy := d.sortBy <|> some "created_at"
      filters := d.filters.mapValues RawValue.ordered } := by
  simp only [toToml?, Option.bind_eq_bind, Option.bind_eq_some_iff] at h
  obtain ⟨page, hpage, perPage, hperPage, filters, hfilters, h⟩ := h
  cases h
  have hweights := Toml.dictOf?_table Toml.double?_float d.weights
  cases hsortBy : d.sortBy with
  | none | some text =>
    refine ⟨by decide, List.isSublist_iff_sublist.mp rfl, ?_⟩
    simp [ofValues?, Toml.field?, Toml.natBelow?_size_ofNat? hpage, Toml.natBelow?_size_ofNat? hperPage, hweights,
      Toml.dictOf?_entriesOfRaw? hfilters, Toml.listOf?_ofNames]

theorem ExcerptOptions.isRead {o : ExcerptOptions} {entries : List (String × Toml)} (h : o.toToml? = some entries) :
    Config.IsRead "excerpting" ofValues? entries o := by
  simp only [toToml?, Option.bind_eq_bind, Option.bind_eq_some_iff] at h
  obtain ⟨limit, hlimit, around, haround, h⟩ := h
  cases h
  have hmethods := Toml.listOf?_array Toml.listOf?_ofNames o.contentMethods
  refine ⟨by decide, List.isSublist_iff_sublist.mp rfl, ?_⟩
  simp [ofValues?, Toml.field?, Toml.natBelow?_size_ofNat? hlimit, Toml.natBelow?_size_ofNat? haround, hmethods]

theorem ClientOptions.isRead {o : ClientOptions} {entries : List (String × Toml)} (h : o.toToml? = some entries)
    (hretries : o.maxRetries < UInt32.size) : Config.IsRead "client" ofValues? entries o := by
  simp only [toToml?, Option.bind_eq_bind, Option.bind_eq_some_iff] at h
  obtain ⟨maxRetries, hmaxRetries, maxFacets, hmaxFacets, h⟩ := h
  cases h
  refine ⟨by decide, List.isSublist_iff_sublist.mp rfl, ?_⟩
  simp [ofValues?, Toml.field?, Toml.natBelow?_ofNat? hmaxRetries hretries, Toml.natBelow?_size_ofNat? hmaxFacets]

theorem DaemonSettings.isRead {s : DaemonSettings} {entries : List (String × Toml)} (h : s.toToml? = some entries) :
    Config.IsRead "daemon" ofValues? entries s := by
  simp only [toToml?, Option.bind_eq_bind, Option.bind_eq_some_iff] at h
  obtain ⟨maxMatches, hmaxMatches, h⟩ := h
  cases h
  obtain ⟨limit, indexName, confPath, textFields⟩ := s
  cases confPath with
  | none | some path =>
    refine ⟨by decide, List.isSublist_iff_sublist.mp rfl, ?_⟩
    simp [ofValues?, Toml.field?, Toml.natBelow?_size_ofNat? hmaxMatches, Toml.listOf?_ofNames]

/-! ### Configurations -/

namespace Config

/-- What holds of the values of every configuration: the retries fit 32 bits, and maps have their keys in order. -/
structure WellFormed (config : Config) : Prop where
  maxRetries : config.client.maxRetries < UInt32.size
  filters : ∀ entry ∈ config.queryDefaults.filters.toList, entry.2.ordered = entry.2

/-- The configuration with the default attribute to sort by if none is set. -/
def reloaded (config : Config) : Config :=
  { config with queryDefaults := { config.queryDefaults with
      sortBy := config.queryDefaults.sortBy <|> some "created_at" } }

variable {format : Toml.Format} {config : Config} {table : List (String × Toml)}

theorem WellFormed.mapValues_ordered (h : config.WellFormed) :
    config.queryDefaults.filters.mapValues RawValue.ordered = config.queryDefaults.filters := by
  refine SortedMap.eq_of_entries (List.map_congr_left (fun entry hentry => ?_) |>.trans (List.map_id _))
  rw [h.filters entry hentry]
  rfl

/-- The sections of the table of a configuration, each with the value that it is read as. -/
theorem toTable?_cases (hretries : config.client.maxRetries < UInt32.size) (h : config.toTable? = some table) :
    ∃ queryDefaults excerpting client daemon,
      table = [("query_defaults", .table queryDefaults), ("excerpting", .table excerpting), ("client", .table client),
        ("daemon", .table daemon)] ∧
      IsRead "query_defaults" QueryDefaults.ofValues? queryDefaults { config.queryDefaults with
        sortBy := config.queryDefaults.sortBy <|> some "created_at"
        filters := config.queryDefaults.filters.mapValues RawValue.ordered } ∧
      IsRead "excerpting" ExcerptOptions.ofValues? excerpting config.excerpting ∧
      IsRead "client" ClientOptions.ofValues? client config.client ∧
      IsRead "daemon" DaemonSettings.ofValues? daemon config.daemon := by
  simp only [toTable?, Option.bind_eq_bind, Option.bind_eq_some_iff] at h
  obtain ⟨queryDefaults, hqueryDefaults, excerpting, hexcerpting, client, hclient, daemon, hdaemon, h⟩ := h
  exact ⟨queryDefaults, excerpting, client, daemon, (Option.some.inj h).symm, QueryDefaults.isRead hqueryDefaults,
    ExcerptOptions.isRead hexcerpting, ClientOptions.isRead hclient hretries, DaemonSettings.isRead hdaemon⟩

theorem ofTable?_dict (hwf : config.WellFormed) (h : config.toTable? = some table) :
    ofTable? (Toml.dict table) = some config.reloaded := by
  obtain ⟨queryDefaults, excerpting, client, daemon, rfl, hqueryDefaults, hexcerpting, hclient, hdaemon⟩ :=
    toTable?_cases hwf.maxRetries h
  rw [hwf.mapValues_ordered] at hqueryDefaults
  rw [ofTable?, get?_dict (by simp)]
  simp [hqueryDefaults.bind_sectionValues?, hexcerpting.bind_sectionValues?, hclient.bind_sectionValues?,
    hdaemon.bind_sectionValues?, reloaded]

theorem unknownKeys_dict (hwf : config.WellFormed) (h : config.toTable? = some table) :
    unknownKeys (Toml.dict table) = [] := by
  obtain ⟨queryDefaults, excerpting, client, daemon, rfl, hqueryDefaults, hexcerpting, hclient, hdaemon⟩ :=
    toTable?_cases hwf.maxRetries h
  refine List.flatMap_eq_nil_iff.mpr fun entry hentry => ?_
  obtain ⟨name, value⟩ := entry
  have hread := SortedMap.get?_eq_some_iff.mpr hentry
  rw [get?_dict (by simp)] at hread
  simp only [readValue?_cons, readValue?_nil] at hread
  split_ifs at hread with hname hname hname hname
  · cases hread
    exact hname ▸ hqueryDefaults.unknownIn_eq_nil
  · cases hread
    exact hname ▸ hexcerpting.unknownIn_eq_nil
  · cases hread
    exact hname ▸ hclient.unknownIn_eq_nil
  · cases hread
    exact hname ▸ hdaemon.unknownIn_eq_nil

theorem toText_of_toTable? (h : config.toTable? = some table) : config.toText format = .ok (format.write table) := by
  rw [toText, h]

theorem reloaded_eq_iff : config.reloaded = config ↔ config.queryDefaults.sortBy ≠ none := by
  obtain ⟨⟨page, perPage, classNames, sortMode, sortBy, weights, filters, facets⟩, excerpting, client, daemon⟩ := config
  cases sortBy <;> simp [reloaded]

theorem ofText_write (hwf : config.WellFormed) (h : config.toTable? = some table) (hreads : format.ReadsBack table) :
    ofText format (format.write table) = pure (.ok config.reloaded) := by
  rw [ofText, hreads]
  simp only [ofTable?_dict hwf h, unknownKeys_dict hwf h]
  rfl

/-- A configuration whose table is read back, in whatever format, is loaded with the default attribute to sort by if it
    has none, and with all else as it was saved; no key is reported. So it is loaded as it was saved if and only if it
    has an attribute to sort by. -/
theorem ofText_toText {text : String} (hwf : config.WellFormed) (htext : config.toText format = .ok text)
    (hreads : ∀ table, config.toTable? = some table → format.ReadsBack table) :
    ofText format text = pure (.ok config.reloaded) ∧
    (ofText format text = pure (.ok config) ↔ config.queryDefaults.sortBy ≠ none) := by
  unfold toText at htext
  split at htext
  · next table htable =>
    cases htext
    have hloaded : ofText format (format.write table) = pure (.ok config.reloaded) :=
      ofText_write hwf htable (hreads table htable)
    refine ⟨hloaded, ?_⟩
    rw [hloaded, ← reloaded_eq_iff]
    exact ⟨fun h => Except.ok.inj (congrArg Reported.value h), fun h => by rw [h]⟩
  · cases htext

/-- A configuration with a weight, nested filters and a path. -/
def dogs : Config where
  queryDefaults := {
    perPage := 50
    weights := .ofList [("title", .ofDecimal false 2 0)]
    filters := .ofList [("age", .str "1..5"), ("home", .map [("city", .list [.str "Oslo"]), ("indoor", .bool true)])] }
  daemon := { confPath := some "search.conf", textFields := ["title", "body"] }

theorem dogs_wellFormed : dogs.WellFormed where
  maxRetries := by decide
  filters := List.forall_mem_cons.mpr ⟨rfl, List.forall_mem_cons.mpr ⟨rfl, List.forall_mem_nil _⟩⟩

theorem exists_toTable?_dogs : ∃ table, dogs.toTable? = some table ∧ Toml.Format.standard.ReadsBack table := by
  refine ⟨_, rfl, Toml.Format.readsBack_standard_iff.mpr ?_⟩
  decide +kernel

/-- What was saved of `dogs` is loaded again. -/
theorem ofText_toText_dogs : ∃ text, dogs.WellFormed ∧ dogs.toText .standard = .ok text ∧
    (∀ table, dogs.toTable? = some table → Toml.Format.standard.ReadsBack table) ∧
    ofText .standard text = pure (.ok dogs) := by
  obtain ⟨table, htable, hreads⟩ := exists_toTable?_dogs
  have htext : dogs.toText .standard = .ok (Toml.Format.standard.write table) := toText_of_toTable? htable
  have hreads (table' : List (String × Toml)) (htable' : dogs.toTable? = some table') :
      Toml.Format.standard.ReadsBack table' :=
    Option.some.inj (htable.symm.trans htable') ▸ hreads
  exact ⟨_, dogs_wellFormed, htext, hreads, (ofText_toText dogs_wellFormed htext hreads).2.mpr (by decide)⟩

/-- A configuration without an attribute to sort by. -/
def unsorted : Config where
  queryDefaults := { sortBy := none }

theorem unsorted_wellFormed : unsorted.WellFormed where
  maxRetries := by decide
  filters := List.forall_mem_nil _

theorem exists_toTable?_unsorted : ∃ table, unsorted.toTable? = some table ∧ Toml.Format.standard.ReadsBack table := by
  refine ⟨_, rfl, Toml.Format.readsBack_standard_iff.mpr ?_⟩
  decide +kernel

/-- What was saved of `unsorted` is loaded with an attribute to sort by, though its document is read back. -/
theorem ofText_unsorted : ∃ table text, unsorted.toTable? = some table ∧ Toml.Format.standard.ReadsBack table ∧
    unsorted.toText .standard = .ok text ∧ ofText .standard text ≠ pure (.ok unsorted) := by
  obtain ⟨table, htable, hreads⟩ := exists_toTable?_unsorted
  refine ⟨table, _, htable, hreads, toText_of_toTable? htable, fun hloaded => ?_⟩
  rw [ofText_write unsorted_wellFormed htable hreads] at hloaded
  have hsame : unsorted.reloaded = unsorted := Except.ok.inj (congrArg Reported.value hloaded)
  exact reloaded_eq_iff.mp hsame rfl

end Config
end SearchClient
