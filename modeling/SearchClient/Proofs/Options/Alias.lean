import SearchClient.Proofs.Options.Coercion

/-! Older names of options. An option may be supplied under several names, and the first value that is not null counts,
its own name coming first. Folding the older names one after another comes to the same as looking up that value: options
are normalized like those from which the older names were removed and which hold that value. -/

namespace SearchClient

/-! ### The first value of a list -/

section First
variable {α β : Type} {f g : α → Option β}

theorem findSome?_cons_eq_or (f : α → Option β) (a : α) (as : List α) :
    (a :: as).findSome? f = (f a).or (as.findSome? f) := by
  rw [List.findSome?_cons]
  cases f a <;> rfl

theorem findSome?_congr {as : List α} (h : ∀ a ∈ as, f a = g a) : as.findSome? f = as.findSome? g := by
  induction as with
  | nil => rfl
  | cons a as ih =>
    obtain ⟨ha, has⟩ := List.forall_mem_cons.mp h
    rw [findSome?_cons_eq_or, findSome?_cons_eq_or, ha, ih has]

end First

/-! ### Names -/

namespace SearchOptions

/-- The names under which an option may be supplied, those that win first. -/
def namesOf (key : String) : List String := key :: (legacyAliases.filter (·.2 == key)).map Prod.fst

end SearchOptions

namespace RawOptions
open SearchOptions

/-- What is supplied as an option: nothing under an older name, and the first value that is not null under a name that
    older ones stand for. -/
def supplied? (raw : RawOptions) (key : String) : Option RawValue :=
  if key ∈ legacyAliases.map Prod.fst then none
  else if key ∈ legacyAliases.map Prod.snd then (namesOf key).findSome? raw.value?
  else raw.get? key

theorem not_mem_fst_of_mem_snd {key : String} (h : key ∈ legacyAliases.map Prod.snd) :
    key ∉ legacyAliases.map Prod.fst :=
  (show ∀ name ∈ legacyAliases.map Prod.snd, name ∉ legacyAliases.map Prod.fst by decide) key h

theorem supplied?_congr {raw raw' : RawOptions} {key : String}
    (hsnd : key ∈ legacyAliases.map Prod.snd →
      (namesOf key).findSome? raw.value? = (namesOf key).findSome? raw'.value?)
    (hother : key ∉ legacyAliases.map Prod.fst → key ∉ legacyAliases.map Prod.snd → raw.get? key = raw'.get? key) :
    raw.supplied? key = raw'.supplied? key := by
  unfold supplied?
  split
  · rfl
  · next hfst =>
    split
    · next h => exact hsnd h
    · next h => exact hother hfst h

/-- The options without older names. -/
def resolved (raw : RawOptions) : RawOptions :=
  .ofList ((raw.keys ++ legacyAliases.map Prod.snd).filterMap fun key => (raw.supplied? key).map (key, ·))

theorem get?_resolved (raw : RawOptions) (key : String) : raw.resolved.get? key = raw.supplied? key := by
  rw [resolved, SortedMap.get?_ofList_filterMap]
  split
  · rfl
  · next h =>
    rw [List.mem_append, not_or] at h
    have hnone : raw.get? key = none :=
      Option.eq_none_iff_forall_not_mem.mpr fun value hvalue => h.1 (SortedMap.mem_keys_iff.mpr ⟨value, hvalue⟩)
    simp [supplied?, h.2, hnone]

theorem resolved_congr {raw raw' : RawOptions} (h : ∀ key, raw.supplied? key = raw'.supplied? key) :
    raw.resolved = raw'.resolved :=
  SortedMap.ext_get? fun key => by rw [get?_resolved, get?_resolved, h]

theorem value?_eq_some_iff {raw : RawOptions} {key : String} {value : RawValue} :
    raw.value? key = some value ↔ raw.get? key = some value ∧ value.isNull = false := by
  simp [value?, Option.filter_eq_some_iff]

/-! ### Folding one older name -/

section Fold
variable {raw : RawOptions} {entry : String × String} {key : String}

theorem get?_foldAlias_of_ne (hfst : entry.1 ≠ key) (hsnd : entry.2 ≠ key) :
    (raw.foldAlias entry).get? key = raw.get? key := by
  unfold foldAlias
  split
  · rfl
  · dsimp only
    split
    · rw [SortedMap.get?_erase, if_neg hfst]
    · rw [SortedMap.get?_insert, if_neg hsnd, SortedMap.get?_erase, if_neg hfst]

theorem get?_foldAlias_fst (h : entry.1 ≠ entry.2) : (raw.foldAlias entry).get? entry.1 = none := by
  unfold foldAlias
  split
  · assumption
  · dsimp only
    split
    · rw [SortedMap.get?_erase, if_pos rfl]
    · rw [SortedMap.get?_insert, if_neg h.symm, SortedMap.get?_erase, if_pos rfl]

theorem value?_foldAlias_snd (h : entry.1 ≠ entry.2) :
    (raw.foldAlias entry).value? entry.2 = (raw.value? entry.2).or (raw.value? entry.1) := by
  have hrest : (raw.erase entry.1).get? entry.2 = raw.get? entry.2 := by rw [SortedMap.get?_erase, if_neg h]
  unfold foldAlias
  cases hfst : raw.get? entry.1 with
  | none => simp [value?, hfst]
  | some value =>
    simp only [hrest, value?, hfst]
    split
    · next hkeeps =>
      rw [hrest]
      rcases Bool.or_eq_true_iff.mp hkeeps with hnull | hsnd
      · simp [Option.filter_some, hnull]
      · obtain ⟨value', hvalue', hnull⟩ := (Option.any_eq_true _ _).mp hsnd
        simp [hvalue', Option.filter_some, hnull]
    · next hkeeps =>
      obtain ⟨hnull, hsnd⟩ := not_or.mp (mt Bool.or_eq_true_iff.mpr hkeeps)
      have hnone : (raw.get? entry.2).filter (!·.isNull) = none :=
        Option.filter_eq_none_iff.mpr fun value' hvalue' hnull' =>
          hsnd ((Option.any_eq_true _ _).mpr ⟨value', hvalue', hnull'⟩)
      simp [SortedMap.get?_insert, hnone, Option.filter_some, hnull]

end Fold

/-! ### Folding older names one after another -/

section FoldAll
variable {entries : List (String × String)} {key : String}

theorem get?_foldl_foldAlias_of_ne (hfst : ∀ e ∈ entries, e.1 ≠ key) (hsnd : ∀ e ∈ entries, e.2 ≠ key)
    (raw : RawOptions) : (entries.foldl foldAlias raw).get? key = raw.get? key := by
  induction entries generalizing raw with
  | nil => rfl
  | cons e entries ih =>
    obtain ⟨hfst, hfsts⟩ := List.forall_mem_cons.mp hfst
    obtain ⟨hsnd, hsnds⟩ := List.forall_mem_cons.mp hsnd
    rw [List.foldl_cons, ih hfsts hsnds, get?_foldAlias_of_ne hfst hsnd]

theorem get?_foldl_foldAlias_eq_none (hsnd : ∀ e ∈ entries, e.2 ≠ key) (raw : RawOptions)
    (h : raw.get? key = none ∨ key ∈ entries.map Prod.fst) : (entries.foldl foldAlias raw).get? key = none := by
  induction entries generalizing raw with
  | nil => exact h.resolve_right List.not_mem_nil
  | cons e entries ih =>
    obtain ⟨hsnd, hsnds⟩ := List.forall_mem_cons.mp hsnd
    refine ih hsnds _ ?_
    by_cases hfst : e.1 = key
    · subst hfst
      exact .inl (get?_foldAlias_fst hsnd.symm)
    · rw [get?_foldAlias_of_ne hfst hsnd]
      exact h.imp_right fun hmem => (List.mem_cons.mp hmem).resolve_left (Ne.symm hfst)

/-- The names that stand for one name are looked up in their order, if no name stands for two and none is stood for. -/
theorem value?_foldl_foldAlias (hnodup : (entries.map Prod.fst).Nodup)
    (hsnd : ∀ e ∈ entries, ∀ e' ∈ entries, e.1 ≠ e'.2)
    (hkey : ∀ e ∈ entries, e.1 ≠ key) (raw : RawOptions) : (entries.foldl foldAlias raw).value? key =
      (key :: (entries.filter (·.2 == key)).map Prod.fst).findSome? raw.value? := by
  induction entries generalizing raw with
  | nil => simp
  | cons e entries ih =>
    obtain ⟨hnotMem, hnodup⟩ := List.nodup_cons.mp hnodup
    obtain ⟨hne, hkeys⟩ := List.forall_mem_cons.mp hkey
    have hsnds : ∀ e ∈ entries, ∀ e' ∈ entries, e.1 ≠ e'.2 := fun e he e' he' =>
      hsnd e (List.mem_cons_of_mem _ he) e' (List.mem_cons_of_mem _ he')
    -- The other names are neither removed nor given a value.
    have hothers : ∀ name ∈ (entries.filter (·.2 == key)).map Prod.fst,
        (raw.foldAlias e).value? name = raw.value? name := by
      intro name hname
      obtain ⟨e', he', rfl⟩ := List.mem_map.mp hname
      have he' := (List.mem_filter.mp he').1
      have hfst : e.1 ≠ e'.1 := fun heq => hnotMem (List.mem_map.mpr ⟨e', he', heq.symm⟩)
      have hsnd : e.2 ≠ e'.1 := (hsnd e' (List.mem_cons_of_mem _ he') e List.mem_cons_self).symm
      rw [value?, value?, get?_foldAlias_of_ne hfst hsnd]
    rw [List.foldl_cons, ih hnodup hsnds hkeys, findSome?_cons_eq_or, findSome?_congr hothers, findSome?_cons_eq_or]
    by_cases hstands : e.2 = key
    · subst hstands
      rw [value?_foldAlias_snd hne, List.filter_cons_of_pos (by simp), List.map_cons, findSome?_cons_eq_or,
        Option.or_assoc]
    · rw [List.filter_cons_of_neg (by simpa using hstands), value?, value?, get?_foldAlias_of_ne hne hstands]

end FoldAll

theorem value?_foldAliases {key : String} (hkey : key ∉ legacyAliases.map Prod.fst) (raw : RawOptions) :
    raw.foldAliases.value? key = (namesOf key).findSome? raw.value? :=
  value?_foldl_foldAlias (by decide) (by decide) (fun e he heq => hkey (List.mem_map.mpr ⟨e, he, heq⟩)) raw

theorem get?_foldAliases {key : String} (hkey : key ∉ legacyAliases.map Prod.snd) (raw : RawOptions) :
    raw.foldAliases.get? key = raw.supplied? key := by
  have hsnd : ∀ e ∈ legacyAliases, e.2 ≠ key := fun e he heq => hkey (List.mem_map.mpr ⟨e, he, heq⟩)
  unfold supplied?
  split
  · next hfst => exact get?_foldl_foldAlias_eq_none hsnd raw (.inr hfst)
  · next hfst =>
    exact get?_foldl_foldAlias_of_ne (fun e he heq => hfst (List.mem_map.mpr ⟨e, he, heq⟩)) hsnd raw

theorem filter_findSome?_value? (raw : RawOptions) (names : List String) :
    (names.findSome? raw.value?).filter (!·.isNull) = names.findSome? raw.value? := by
  cases hvalue : names.findSome? raw.value? with
  | none => rfl
  | some value =>
    obtain ⟨name, -, hname⟩ := List.exists_of_findSome?_eq_some hvalue
    simp [Option.filter_some, (value?_eq_some_iff.mp hname).2]

theorem value?_resolved {key : String} (hkey : key ∉ legacyAliases.map Prod.fst) (raw : RawOptions) :
    raw.resolved.value? key = (namesOf key).findSome? raw.value? := by
  rw [value?, get?_resolved, supplied?, if_neg hkey]
  split
  · exact filter_findSome?_value? raw _
  · next hsnd =>
    have hnames : legacyAliases.filter (·.2 == key) = [] :=
      List.filter_eq_nil_iff.mpr fun e he heq => hsnd (List.mem_map.mpr ⟨e, he, beq_iff_eq.mp heq⟩)
    rw [namesOf, hnames, List.map_nil, findSome?_cons_eq_or, List.findSome?_nil, Option.or_none, value?]

theorem supplied?_resolved (raw : RawOptions) (key : String) : raw.resolved.supplied? key = raw.supplied? key := by
  refine supplied?_congr (fun hsnd => ?_) fun hfst hsnd => ?_
  · -- Only the name itself is left of the names that stand for it.
    have hothers : ∀ name ∈ (legacyAliases.filter (·.2 == key)).map Prod.fst, raw.resolved.value? name = none := by
      intro name hname
      obtain ⟨e, he, rfl⟩ := List.mem_map.mp hname
      have hmem : e.1 ∈ legacyAliases.map Prod.fst := List.mem_map_of_mem (List.mem_filter.mp he).1
      rw [value?, get?_resolved, supplied?, if_pos hmem, Option.filter_none]
    have hself : (namesOf key).findSome? raw.resolved.value? = raw.resolved.value? key := by
      rw [namesOf, findSome?_cons_eq_or, List.findSome?_eq_none_iff.mpr hothers, Option.or_none]
    rw [hself, value?_resolved (not_mem_fst_of_mem_snd hsnd)]
  · rw [get?_resolved, supplied?, if_neg hfst, if_neg hsnd]

/-! ### What normalization reads -/

theorem unknownKeys_congr {raw raw' : RawOptions} (h : ∀ key ∉ recognizedKeys, raw.get? key = raw'.get? key) :
    raw.unknownKeys = raw'.unknownKeys := by
  have hmem (raw : RawOptions) (key : String) :
      key ∈ raw.unknownKeys ↔ key ∉ recognizedKeys ∧ ∃ value, raw.get? key = some value := by
    simp [unknownKeys, SortedMap.mem_keys_iff, and_comm]
  have hsorted (raw : RawOptions) : raw.unknownKeys.Pairwise (· < ·) :=
    (List.pairwise_map.mpr raw.sorted).sublist List.filter_sublist
  have hnodup (raw : RawOptions) : raw.unknownKeys.Nodup := raw.nodup_keys.sublist List.filter_sublist
  refine List.Perm.eq_of_pairwise (fun _ _ _ _ hlt hgt => absurd hgt (Std.not_gt_of_lt hlt)) (hsorted raw)
    (hsorted raw') ((List.perm_ext_iff_of_nodup (hnodup raw) (hnodup raw')).mpr fun key => ?_)
  rw [hmem, hmem]
  refine and_congr_right fun hkey => ?_
  rw [h key hkey]

end RawOptions

namespace SearchOptions
open RawOptions

/-- Normalization reads the values of the options that are not null, and the names of all others. -/
theorem coerce_congr {raw raw' : RawOptions} (hvalue : ∀ key ∈ recognizedKeys, raw.value? key = raw'.value? key)
    (hunknown : ∀ key ∉ recognizedKeys, raw.get? key = raw'.get? key) (defaults : QueryDefaults) :
    coerce defaults raw = coerce defaults raw' := by
  have hvalues := hvalue
  simp only [recognizedKeys, List.forall_mem_cons] at hvalues
  obtain ⟨hquery, hpage, hperPage, hclassNames, hsortBy, hsortMode, hweights, hfilters, hfacets, -⟩ := hvalues
  simp only [coerce, unknownKeys_congr hunknown, hquery, hpage, hperPage, hclassNames, hsortBy, hsortMode, hweights,
    hfilters, hfacets]

theorem normalize_eq_coerce_resolved (defaults : QueryDefaults) (raw : RawOptions) :
    normalize defaults raw = coerce defaults raw.resolved := by
  refine coerce_congr (fun key hkey => ?_) (fun key hkey => ?_) defaults
  · have hfst : key ∉ legacyAliases.map Prod.fst := fun hfst =>
      (show ∀ key ∈ legacyAliases.map Prod.fst, key ∉ recognizedKeys by decide) key hfst hkey
    rw [value?_foldAliases hfst, value?_resolved hfst]
  · have hsnd : key ∉ legacyAliases.map Prod.snd := fun hsnd =>
      hkey ((show ∀ key ∈ legacyAliases.map Prod.snd, key ∈ recognizedKeys by decide) key hsnd)
    rw [get?_foldAliases hsnd, get?_resolved]

theorem normalize_congr {raw raw' : RawOptions} (h : ∀ key, raw.supplied? key = raw'.supplied? key)
    (defaults : QueryDefaults) : normalize defaults raw = normalize defaults raw' := by
  rw [normalize_eq_coerce_resolved, normalize_eq_coerce_resolved, resolved_congr h]

/-! ### Precedence -/

theorem mem_namesOf {key name : String} : name ∈ namesOf key ↔ name = key ∨ (name, key) ∈ legacyAliases := by
  simp [namesOf]

example : namesOf "filters" = ["filters", "filter", "raw_filters"] := by decide

theorem supplied?_erase {raw : RawOptions} {entry : String × String} (hentry : entry ∈ legacyAliases)
    (h : raw.value? entry.2 ≠ none) (key : String) :
    RawOptions.supplied? (raw.erase entry.1) key = raw.supplied? key := by
  have hvalue (name : String) (hname : name ≠ entry.1) :
      RawOptions.value? (raw.erase entry.1) name = raw.value? name := by
    rw [value?, value?, SortedMap.get?_erase, if_neg hname.symm]
  have hne (hfst : key ∉ legacyAliases.map Prod.fst) : key ≠ entry.1 := by
    rintro rfl
    exact hfst (List.mem_map_of_mem hentry)
  refine supplied?_congr (fun hmem => ?_) fun hfst _ => by rw [SortedMap.get?_erase, if_neg (hne hfst).symm]
  have hkey := hne (not_mem_fst_of_mem_snd hmem)
  by_cases hsnd : key = entry.2
  · -- The value under the name itself comes first, with or without the older name.
    subst hsnd
    obtain ⟨value, hvalue'⟩ := Option.ne_none_iff_exists'.mp h
    rw [namesOf, findSome?_cons_eq_or, findSome?_cons_eq_or, hvalue _ hkey, hvalue', Option.some_or, Option.some_or]
  · have hone : ∀ e ∈ legacyAliases, ∀ e' ∈ legacyAliases, e.1 = e'.1 → e.2 = e'.2 := by decide
    refine findSome?_congr fun name hname => hvalue name ?_
    rintro rfl
    rcases mem_namesOf.mp hname with heq | hmem
    · exact hkey heq.symm
    · exact hsnd (hone _ hmem _ hentry rfl)

theorem supplied?_insert {raw : RawOptions} {entry : String × String} {value : RawValue}
    (hentry : entry ∈ legacyAliases) (h : (namesOf entry.2).findSome? raw.value? = some value) (key : String) :
    RawOptions.supplied? (raw.insert entry.2 value) key = raw.supplied? key := by
  have hmem : entry.2 ∈ legacyAliases.map Prod.snd := List.mem_map_of_mem hentry
  refine supplied?_congr (fun _ => ?_) fun _ hsnd => ?_
  · by_cases hkey : key = entry.2
    · subst hkey
      obtain ⟨name, -, hname⟩ := List.exists_of_findSome?_eq_some h
      have hvalue : RawOptions.value? (raw.insert entry.2 value) entry.2 = some value :=
        value?_eq_some_iff.mpr ⟨by rw [SortedMap.get?_insert, if_pos rfl], (value?_eq_some_iff.mp hname).2⟩
      rw [h, namesOf, findSome?_cons_eq_or, hvalue, Option.some_or]
    · refine findSome?_congr fun name hname => ?_
      have hne : entry.2 ≠ name := by
        rintro rfl
        rcases mem_namesOf.mp hname with heq | hmem'
        · exact hkey heq.symm
        · exact not_mem_fst_of_mem_snd hmem (List.mem_map_of_mem hmem')
      rw [value?, value?, SortedMap.get?_insert, if_neg hne]
  · have hne : entry.2 ≠ key := by
      rintro rfl
      exact hsnd hmem
    rw [SortedMap.get?_insert, if_neg hne]

theorem eq_unknownKeys_of_mem_diagnostics {defaults : QueryDefaults} {raw : RawOptions} {keys : List String}
    (h : .unknownOptions keys ∈ (coerce defaults raw).diagnostics) : keys = raw.unknownKeys := by
  rw [coerce_eq] at h
  obtain ⟨piece, hpiece, hdiagnostic⟩ := List.mem_map.mp h
  cases piece with
  | unknown keys' =>
    obtain rfl := Diagnostic.unknownOptions.inj hdiagnostic
    have hmem := (List.mem_filter.mp hpiece).1
    simp [pieces, namePieces, weightPieces, filterPieces] at hmem
    exact hmem.2
  | _ => cases hdiagnostic

/-- The first value that is not null among the names of an option stands in typed options, if it can be used at all. -/
def Stands (raw : RawOptions) (options : SearchOptions) (key : String) (piece : RawValue → Piece) : Prop :=
  ∀ value, (namesOf key).findSome? raw.value? = some value → (piece value).isUsable = true → (piece value).IsIn options

theorem stands_normalize {defaults : QueryDefaults} {key : String} {piece : RawValue → Piece}
    (hkey : key ∉ legacyAliases.map Prod.fst)
    (hpiece : ∀ raw value, RawOptions.value? raw key = some value → piece value ∈ pieces defaults raw) (raw : RawOptions) :
    Stands raw (normalize defaults raw).value key piece := by
  intro value hvalue husable
  rw [normalize_eq_coerce_resolved, coerce_eq]
  rw [← value?_resolved hkey] at hvalue
  exact isIn_reading (hpiece raw.resolved value hvalue) husable

/-- Options are normalized like those in which each option has the first value that is not null among its names and no
    older name is left. So no older name is reported; one beside a value under the name that it stands for does not
    matter; the first value counts as if it were supplied under the name of the option; and it stands in the typed
    options, whatever the default is. -/
theorem normalize_resolved (defaults : QueryDefaults) (raw : RawOptions) :
    normalize defaults raw = normalize defaults raw.resolved ∧
    (∀ key, raw.resolved.get? key = raw.supplied? key) ∧
    (∀ keys, .unknownOptions keys ∈ (normalize defaults raw).diagnostics → ∀ entry ∈ legacyAliases, entry.1 ∉ keys) ∧
    (∀ entry ∈ legacyAliases, raw.value? entry.2 ≠ none →
      normalize defaults (raw.erase entry.1) = normalize defaults raw) ∧
    (∀ entry ∈ legacyAliases, ∀ value, (namesOf entry.2).findSome? raw.value? = some value →
      normalize defaults (raw.insert entry.2 value) = normalize defaults raw) ∧
    Stands raw (normalize defaults raw).value "class_names" (.names "class_names") ∧
    Stands raw (normalize defaults raw).value "weights" .weights ∧
    Stands raw (normalize defaults raw).value "filters" .filters := by
  refine ⟨normalize_congr (fun key => (supplied?_resolved raw key).symm) defaults, get?_resolved raw,
    fun keys hkeys entry hentry hmem => ?_, fun entry hentry h => normalize_congr (supplied?_erase hentry h) defaults,
    fun entry hentry value h => normalize_congr (supplied?_insert hentry h) defaults,
    stands_normalize (by decide) (fun raw value h => ?_) raw, stands_normalize (by decide) (fun raw value h => ?_) raw,
    stands_normalize (by decide) (fun raw value h => ?_) raw⟩
  · rw [normalize_eq_coerce_resolved] at hkeys
    obtain rfl := eq_unknownKeys_of_mem_diagnostics hkeys
    obtain ⟨value, hvalue⟩ := SortedMap.mem_keys_iff.mp (List.mem_filter.mp hmem).1
    rw [get?_resolved, supplied?, if_pos (List.mem_map_of_mem hentry)] at hvalue
    cases hvalue
  · simp [pieces, namePieces, h]
  · simp [pieces, weightPieces, h]
  · simp [pieces, filterPieces, h]

/-- Options with filters under three names, of which the first is null and the second no map, class names under an older
    name beside the name itself, weights under an older name, and a name of no option. -/
def dogsByOlderNames : RawOptions :=
  .ofList [("filters", .null), ("filter", .int 5), ("raw_filters", .map [("age", .int 3)]), ("class_names", .str "Dog"),
    ("class_name", .str "Cat"), ("weight", .map [("title", .int 2)]), ("limit", .int 5)]

def heavyBody : QueryDefaults := { weights := .ofList [("body", .ofDecimal false 9 0)] }

theorem normalize_resolved_dogsByOlderNames :
    normalize heavyBody dogsByOlderNames = normalize heavyBody (.ofList [("filters", .int 5), ("class_names", .str "Dog"),
      ("weights", .map [("title", .int 2)]), ("limit", .int 5)]) ∧
    normalize heavyBody (dogsByOlderNames.erase "class_name") = normalize heavyBody dogsByOlderNames ∧
    normalize heavyBody (dogsByOlderNames.insert "filters" (.int 5)) = normalize heavyBody dogsByOlderNames ∧
    (normalize heavyBody dogsByOlderNames).value.weights = .ofList [("title", .ofDecimal false 2 0)] := by
  have hresolved : dogsByOlderNames.resolved = .ofList [("filters", .int 5), ("class_names", .str "Dog"),
    ("weights", .map [("title", .int 2)]), ("limit", .int 5)] := rfl
  have hclass : dogsByOlderNames.value? "class_names" = some (.str "Dog") := rfl
  have hfilters : (namesOf "filters").findSome? dogsByOlderNames.value? = some (.int 5) := rfl
  have hweights : (namesOf "weights").findSome? dogsByOlderNames.value? = some (.map [("title", .int 2)]) := rfl
  obtain ⟨heq, -, -, herase, hinsert, -, hstands, -⟩ := normalize_resolved heavyBody dogsByOlderNames
  refine ⟨hresolved ▸ heq, herase ("class_name", "class_names") (by decide) ?_,
    hinsert ("filter", "filters") (by decide) _ hfilters, ?_⟩
  · rw [hclass]
    exact Option.some_ne_none _
  · obtain ⟨entries, hentries, hsame⟩ := hstands _ hweights rfl
    rw [hsame, ← Option.some.inj hentries]
    rfl

end SearchOptions
end SearchClient
