import SearchClient.CommandLine.Plan
import SearchClient.Proofs.Filter
import SearchClient.Proofs.Options.Coercion
import SearchClient.Proofs.Text

/-! What the flags of a search come to. Options are made from flags if each weight and each filter names a field and
each weight is a number. All that is made so can be used: no flag is reported, and each is found in the typed options,
of several flags for one field the last. -/

namespace SearchClient.CommandLine
open Text SearchOptions

/-! ### Flags for fields -/

/-- The text in front of the first equals sign. -/
def namePart (arg : String) : List Char := arg.toList.takeWhile (· != '=')

def fieldOf (arg : String) : String := String.ofList (trim (namePart arg))

def valueOf (arg : String) : List Char := trim ((arg.toList.dropWhile (· != '=')).drop 1)

/-- A flag names a field and gives it a value, which may be empty. -/
structure IsPair (arg : String) : Prop where
  equals : '=' ∈ arg.toList
  named : isBlankText (namePart arg) = false

theorem not_isPair_iff {arg : String} : ¬IsPair arg ↔ '=' ∉ arg.toList ∨ isBlankText (namePart arg) = true := by
  constructor
  · intro h
    by_cases hequals : '=' ∈ arg.toList
    · right
      cases hnamed : isBlankText (namePart arg) with
      | true => rfl
      | false => exact absurd ⟨hequals, hnamed⟩ h
    · exact .inl hequals
  · rintro (hequals | hblank) hpair
    · exact hequals hpair.equals
    · cases hblank.symm.trans hpair.named

theorem splitPair_of_isPair {arg : String} (h : IsPair arg) : splitPair arg = .ok (fieldOf arg, valueOf arg) := by
  have hname : ¬(trim (namePart arg)).isEmpty = true := by
    rw [isEmpty_trim, h.named]
    exact Bool.false_ne_true
  rw [splitPair, cut?_of_mem h.equals]
  exact if_neg hname

theorem isPair_of_splitPair {arg : String} {pair : String × List Char} (h : splitPair arg = .ok pair) : IsPair arg := by
  by_cases hequals : '=' ∈ arg.toList
  · refine ⟨hequals, ?_⟩
    rw [splitPair, cut?_of_mem hequals] at h
    rw [← isEmpty_trim]
    cases hname : (trim (namePart arg)).isEmpty with
    | false => rfl
    | true => cases (if_pos hname).symm.trans h
  · rw [splitPair, cut?_of_not_mem hequals] at h
    cases h

def weightValue (value : List Char) : RawValue := ((double? value).map RawValue.float).getD .null

theorem double?_weightValue (value : List Char) : (weightValue value).double? = double? value := by
  unfold weightValue
  cases double? value <;> rfl

theorem weightEntry_eq {arg : String} (hpair : IsPair arg) (hweight : (double? (valueOf arg)).isSome = true) :
    weightEntry arg = .ok (fieldOf arg, weightValue (valueOf arg)) := by
  -- An empty text is refused on its own, and is no number either.
  have hempty : (valueOf arg).isEmpty = false := by
    cases hvalue : valueOf arg with
    | nil =>
      rw [hvalue] at hweight
      cases hweight
    | cons c cs => rfl
  obtain ⟨weight, hweight⟩ := Option.isSome_iff_exists.mp hweight
  refine bind_eq_ok_iff.mpr ⟨_, splitPair_of_isPair hpair, ?_⟩
  dsimp only
  rw [hempty, weightValue, hweight]
  rfl

theorem exists_weightEntry_iff {arg : String} :
    (∃ entry, weightEntry arg = .ok entry) ↔ IsPair arg ∧ (double? (valueOf arg)).isSome = true := by
  constructor
  · rintro ⟨entry, hentry⟩
    obtain ⟨pair, hpair, hentry⟩ := bind_eq_ok_iff.mp hentry
    have hisPair := isPair_of_splitPair hpair
    obtain rfl := Except.ok.inj ((splitPair_of_isPair hisPair).symm.trans hpair)
    refine ⟨hisPair, ?_⟩
    cases hweight : double? (valueOf arg) with
    | some weight => rfl
    | none =>
      dsimp only at hentry
      rw [hweight] at hentry
      split at hentry
      · cases hentry
      · cases hentry
  · rintro ⟨hpair, hweight⟩
    exact ⟨_, weightEntry_eq hpair hweight⟩

theorem filterEntry_eq {arg : String} (hpair : IsPair arg) :
    filterEntry arg = .ok (fieldOf arg, filterValue (valueOf arg)) := by
  rw [filterEntry, splitPair_of_isPair hpair]
  rfl

theorem exists_filterEntry_iff {arg : String} : (∃ entry, filterEntry arg = .ok entry) ↔ IsPair arg := by
  constructor
  · rintro ⟨entry, hentry⟩
    obtain ⟨pair, hpair, -⟩ := bind_eq_ok_iff.mp hentry
    exact isPair_of_splitPair hpair
  · intro hpair
    exact ⟨_, filterEntry_eq hpair⟩

/-! ### Values of filters -/

def scalarOf (value : List Char) : Scalar := (Scalar.ofNumber? value).getD (.str (String.ofList value))

theorem scalarValue_eq (value : List Char) : scalarValue value = (scalarOf value).toRaw := by
  unfold scalarValue scalarOf
  cases Scalar.ofNumber? value <;> rfl

/-- Every value on the command line gives a filter. -/
theorem isSome_ofRaw?_filterValue (value : List Char) : (Filter.ofRaw? (filterValue value)).isSome = true := by
  unfold filterValue
  split
  · rw [List.map_congr_left fun v _ => scalarValue_eq v, ← Function.comp_def, ← List.map_map, Filter.ofRaw?_list_toRaw]
    rfl
  · rw [scalarValue_eq]
    cases scalarOf value <;> rfl

/-! ### Options made from flags -/

/-- What flags say of the fields that they name; of several flags for one field the last one counts. -/
def fieldValues (read : List Char → RawValue) (args : List String) : Dict RawValue :=
  .ofList (args.map fun arg => (fieldOf arg, read (valueOf arg)))

def fieldOption (read : List Char → RawValue) (args : List String) : Option RawValue :=
  unlessEmpty (args.map fun arg => (fieldOf arg, read (valueOf arg))) mapValue

theorem fieldOption_of_ne_nil {read : List Char → RawValue} {args : List String} (h : args ≠ []) :
    fieldOption read args = some (.map (fieldValues read args).toList) := by
  obtain ⟨arg, args, rfl⟩ := List.exists_cons_of_ne_nil h
  rfl

theorem entries?_fieldOption (read : List Char → RawValue) (args : List String) :
    (fieldOption read args).bind RawValue.entries? = if args = [] then none else some (fieldValues read args) := by
  split
  · next h =>
    rw [h]
    rfl
  · next h => rw [fieldOption_of_ne_nil h, Option.bind_some, RawValue.entries?, RawValue.dict_toList]

section FieldValues
variable {read : List Char → RawValue} {args : List String} {arg field : String}

theorem exists_of_mem_fieldValues {e : String × RawValue} (h : e ∈ (fieldValues read args).toList) :
    ∃ arg ∈ args, e = (fieldOf arg, read (valueOf arg)) := by
  have hlast := SortedMap.get?_ofList_eq_some_iff.mp (SortedMap.get?_eq_some_iff.mpr h)
  obtain ⟨arg, harg, heq⟩ := List.mem_map.mp hlast.mem
  exact ⟨arg, harg, heq.symm⟩

theorem mem_keys_fieldValues : field ∈ (fieldValues read args).keys ↔ field ∈ args.map fieldOf := by
  rw [fieldValues, SortedMap.mem_keys_ofList, List.map_map]
  rfl

theorem get?_fieldValues (h : IsLastBy fieldOf args arg) :
    (fieldValues read args).get? (fieldOf arg) = some (read (valueOf arg)) :=
  SortedMap.get?_ofList_eq_some_iff.mpr (IsLastBy.map_iff_exists.mpr ⟨arg, rfl, h⟩)

end FieldValues

namespace PlanFlags

/-- The options by name, in the order in which they are made from flags. -/
def entries (flags : PlanFlags) : List (String × Option RawValue) :=
  [("query", some (.str flags.query)),
   ("page", flags.page.map .int),
   ("per_page", flags.perPage.map .int),
   ("class_names", unlessEmpty flags.classNames nameList),
   ("sort_mode", flags.sortMode.map .str),
   ("sort_by", flags.sortBy.map .str),
   ("weights", fieldOption weightValue flags.weights),
   ("filters", fieldOption filterValue flags.filters),
   ("facets", unlessEmpty flags.facets nameList)]

/-- The options that well-formed flags stand for. -/
def supplied (flags : PlanFlags) : RawOptions := .ofList (flags.entries.filterMap fun (name, value) => value.map (name, ·))

structure WellFormed (flags : PlanFlags) : Prop where
  weights : ∀ arg ∈ flags.weights, IsPair arg ∧ (double? (valueOf arg)).isSome = true
  filters : ∀ arg ∈ flags.filters, IsPair arg

variable {flags : PlanFlags}

theorem WellFormed.rawOptions_eq (h : flags.WellFormed) : flags.rawOptions = .ok flags.supplied := by
  have hweights := mapM_eq_ok fun arg harg => weightEntry_eq (h.weights arg harg).1 (h.weights arg harg).2
  have hfilters := mapM_eq_ok fun arg harg => filterEntry_eq (h.filters arg harg)
  rw [rawOptions, hweights, hfilters]
  rfl

theorem wellFormed_iff : flags.WellFormed ↔ ∃ raw, flags.rawOptions = .ok raw := by
  constructor
  · intro h
    exact ⟨_, h.rawOptions_eq⟩
  · rintro ⟨raw, hraw⟩
    obtain ⟨weights, hweights, hraw⟩ := bind_eq_ok_iff.mp hraw
    obtain ⟨filters, hfilters, -⟩ := bind_eq_ok_iff.mp hraw
    constructor
    · intro arg harg
      exact exists_weightEntry_iff.mp (exists_ok_of_mapM hweights harg)
    · intro arg harg
      exact exists_filterEntry_iff.mp (exists_ok_of_mapM hfilters harg)

theorem failed_iff : (∃ fault, flags.rawOptions = .error fault) ↔
    (∃ arg ∈ flags.weights ++ flags.filters, '=' ∉ arg.toList ∨ isBlankText (namePart arg) = true) ∨
    ∃ arg ∈ flags.weights, double? (valueOf arg) = none := by
  constructor
  · rintro ⟨fault, hfault⟩
    by_contra hnone
    obtain ⟨hpairs, hweights⟩ := not_or.mp hnone
    have hpair {arg : String} (harg : arg ∈ flags.weights ++ flags.filters) : IsPair arg := by
      by_contra hnot
      exact hpairs ⟨arg, harg, not_isPair_iff.mp hnot⟩
    have h : flags.WellFormed := by
      constructor
      · intro arg harg
        refine ⟨hpair (List.mem_append_left _ harg), ?_⟩
        exact Option.isSome_iff_ne_none.mpr fun hweight => hweights ⟨arg, harg, hweight⟩
      · intro arg harg
        exact hpair (List.mem_append_right _ harg)
    cases hfault.symm.trans h.rawOptions_eq
  · intro hbad
    cases hraw : flags.rawOptions with
    | error fault => exact ⟨fault, rfl⟩
    | ok raw =>
      have h : flags.WellFormed := wellFormed_iff.mpr ⟨raw, hraw⟩
      rcases hbad with ⟨arg, harg, hnot⟩ | ⟨arg, harg, hweight⟩
      · rcases List.mem_append.mp harg with harg | harg
        · exact absurd (h.weights arg harg).1 (not_isPair_iff.mpr hnot)
        · exact absurd (h.filters arg harg) (not_isPair_iff.mpr hnot)
      · have hsome := (h.weights arg harg).2
        rw [hweight] at hsome
        cases hsome

/-! ### Options by name -/

theorem names_entries (flags : PlanFlags) : flags.entries.map Prod.fst =
    ["query", "page", "per_page", "class_names", "sort_mode", "sort_by", "weights", "filters", "facets"] := rfl

theorem get?_supplied (flags : PlanFlags) (name : String) :
    flags.supplied.get? name = (SortedMap.lookup name flags.entries).join := by
  have hnames : (flags.entries.map Prod.fst).Nodup := by
    rw [names_entries]
    decide
  exact SortedMap.get?_ofList_filterMap_snd hnames name

theorem mem_names_of_get?_supplied {name : String} {value : RawValue} (h : flags.supplied.get? name = some value) :
    name ∈ flags.entries.map Prod.fst := by
  rw [get?_supplied, Option.join_eq_some_iff] at h
  exact List.mem_map_of_mem (SortedMap.mem_of_lookup h)

theorem isNull_of_map {α : Type} {f : α → RawValue} (hf : ∀ a, (f a).isNull = false) {item : Option α} {value : RawValue}
    (h : some value = item.map f) : value.isNull = false := by
  obtain ⟨a, -, rfl⟩ := Option.map_eq_some_iff.mp h.symm
  exact hf a

theorem isNull_of_unlessEmpty {α : Type} {f : List α → RawValue} (hf : ∀ items, (f items).isNull = false)
    {items : List α} {value : RawValue} (h : some value = unlessEmpty items f) : value.isNull = false := by
  cases items with
  | nil => cases h
  | cons item items =>
    cases h
    exact hf (item :: items)

theorem isNull_of_mem_entries {name : String} {value : RawValue} (h : (name, some value) ∈ flags.entries) :
    value.isNull = false := by
  simp only [entries, List.mem_cons, List.not_mem_nil, or_false, Prod.mk.injEq] at h
  rcases h with ⟨-, h⟩ | ⟨-, h⟩ | ⟨-, h⟩ | ⟨-, h⟩ | ⟨-, h⟩ | ⟨-, h⟩ | ⟨-, h⟩ | ⟨-, h⟩ | ⟨-, h⟩
  · cases h
    rfl
  · exact isNull_of_map (fun _ => rfl) h
  · exact isNull_of_map (fun _ => rfl) h
  · exact isNull_of_unlessEmpty (fun _ => rfl) h
  · exact isNull_of_map (fun _ => rfl) h
  · exact isNull_of_map (fun _ => rfl) h
  · exact isNull_of_unlessEmpty (fun _ => rfl) h
  · exact isNull_of_unlessEmpty (fun _ => rfl) h
  · exact isNull_of_unlessEmpty (fun _ => rfl) h

/-- No flag gives null, so what is given counts. -/
theorem value?_supplied (flags : PlanFlags) (name : String) :
    flags.supplied.value? name = (SortedMap.lookup name flags.entries).join := by
  rw [RawOptions.value?, get?_supplied]
  cases h : (SortedMap.lookup name flags.entries).join with
  | none => rfl
  | some value =>
    rw [Option.join_eq_some_iff] at h
    rw [Option.filter_some, isNull_of_mem_entries (SortedMap.mem_of_lookup h)]
    rfl

@[simp] theorem value?_query : flags.supplied.value? "query" = some (.str flags.query) := value?_supplied flags _

@[simp] theorem value?_page : flags.supplied.value? "page" = flags.page.map .int := value?_supplied flags _

@[simp] theorem value?_perPage : flags.supplied.value? "per_page" = flags.perPage.map .int := value?_supplied flags _

@[simp] theorem value?_classNames : flags.supplied.value? "class_names" = unlessEmpty flags.classNames nameList :=
  value?_supplied flags _

@[simp] theorem value?_sortMode : flags.supplied.value? "sort_mode" = flags.sortMode.map .str := value?_supplied flags _

@[simp] theorem value?_sortBy : flags.supplied.value? "sort_by" = flags.sortBy.map .str := value?_supplied flags _

@[simp] theorem value?_weights : flags.supplied.value? "weights" = fieldOption weightValue flags.weights :=
  value?_supplied flags _

@[simp] theorem value?_filters : flags.supplied.value? "filters" = fieldOption filterValue flags.filters :=
  value?_supplied flags _

@[simp] theorem value?_facets : flags.supplied.value? "facets" = unlessEmpty flags.facets nameList :=
  value?_supplied flags _

theorem unknownKeys_supplied (flags : PlanFlags) : flags.supplied.unknownKeys = [] := by
  refine List.filter_eq_nil_iff.mpr fun name hname => ?_
  obtain ⟨value, hvalue⟩ := SortedMap.mem_keys_iff.mp hname
  have hnames : ∀ name ∈ flags.entries.map Prod.fst, name ∈ recognizedKeys := by
    rw [names_entries]
    decide
  simpa using hnames name (mem_names_of_get?_supplied hvalue)

theorem normalize_supplied (flags : PlanFlags) (defaults : QueryDefaults) : normalize defaults flags.supplied =
    ⟨reading defaults flags.supplied, Piece.reports (SearchOptions.pieces defaults flags.supplied)⟩ := by
  refine normalize_eq_reading (fun entry hentry => ?_) defaults
  have hnames : ∀ entry ∈ legacyAliases, entry.1 ∉ flags.entries.map Prod.fst := by
    rw [names_entries]
    decide
  refine Option.eq_none_iff_forall_not_mem.mpr fun value hvalue => ?_
  exact hnames entry hentry (mem_names_of_get?_supplied hvalue)

/-! ### What is reported -/

theorem reports_names (key : String) (names : List String) :
    Piece.reports (namePieces key (unlessEmpty names nameList)) = [] := by
  refine Piece.reports_eq_nil_iff.mpr fun piece hpiece => ?_
  cases names with
  | nil => cases hpiece
  | cons name names =>
    rcases List.mem_append.mp hpiece with hpiece | hpiece
    · obtain ⟨value, hvalue, rfl⟩ := mem_map_toList.mp hpiece
      cases hvalue
      rfl
    · obtain ⟨entry, hentry, rfl⟩ := List.mem_map.mp hpiece
      obtain ⟨text, -, rfl⟩ := List.mem_map.mp hentry
      rfl

/-- Nothing is reported on flags for fields if each gives a value that can be used. -/
theorem reports_fieldOption {read : List Char → RawValue} {args : List String} {whole : RawValue → Piece}
    {part : String → RawValue → Piece} (hargs : args ≠ []) (hwhole : ∀ entries, (whole (.map entries)).isUsable = true)
    (hpart : ∀ arg ∈ args, (part (fieldOf arg) (read (valueOf arg))).isUsable = true) (default : Dict RawValue) :
    Piece.reports ((fieldOption read args).toList.map whole ++
      (((fieldOption read args).bind RawValue.entries?).getD default).toList.map fun e => part e.1 e.2) = [] := by
  rw [entries?_fieldOption, if_neg hargs, fieldOption_of_ne_nil hargs]
  refine Piece.reports_eq_nil_iff.mpr fun piece hpiece => ?_
  rcases List.mem_append.mp hpiece with hpiece | hpiece
  · obtain ⟨value, hvalue, rfl⟩ := mem_map_toList.mp hpiece
    cases hvalue
    exact hwhole _
  · obtain ⟨e, he, rfl⟩ := List.mem_map.mp hpiece
    obtain ⟨arg, harg, rfl⟩ := exists_of_mem_fieldValues he
    exact hpart arg harg

theorem reports_weights (h : flags.WellFormed) :
    Piece.reports (weightPieces (fieldOption weightValue flags.weights)) = [] := by
  by_cases hargs : flags.weights = []
  · rw [hargs]
    rfl
  · refine reports_fieldOption hargs (fun _ => rfl) (fun arg harg => ?_) .empty
    show (weightValue (valueOf arg)).double?.isSome = true
    rw [double?_weightValue]
    exact (h.weights arg harg).2

/-- The default filters that cannot be used. -/
def unusableFilters (defaults : QueryDefaults) : List String :=
  (defaults.filters.toList.filter fun e => (Filter.ofRaw? e.2).isNone).map Prod.fst

theorem reports_filters (flags : PlanFlags) (defaults : QueryDefaults) :
    Piece.reports (filterPieces defaults.filters (fieldOption filterValue flags.filters)) =
      if flags.filters = [] then (unusableFilters defaults).map .filterUnusable else [] := by
  split
  · next hargs =>
    rw [hargs, unusableFilters, List.map_map]
    show Piece.reports (defaults.filters.toList.map fun e => .filter e.1 e.2) = _
    rw [Piece.reports, List.filter_map, List.map_map]
    simp [Function.comp_def, Piece.isUsable, Piece.diagnostic]
  · next hargs =>
    refine reports_fieldOption hargs (fun _ => rfl) (fun arg _ => ?_) defaults.filters
    exact isSome_ofRaw?_filterValue (valueOf arg)

theorem reports_pieces (h : flags.WellFormed) (defaults : QueryDefaults) :
    Piece.reports (SearchOptions.pieces defaults flags.supplied) =
      if flags.filters = [] then (unusableFilters defaults).map .filterUnusable else [] := by
  have hpage (key : String) (n : Option Int64) : Piece.reports ((n.map .int).toList.map (.count key)) = [] := by
    cases n <;> rfl
  have htext (key : String) (s : Option String) : Piece.reports ((s.map .str).toList.map (.text key)) = [] := by
    cases s <;> rfl
  have hquery : Piece.reports ((some (.str flags.query) : Option RawValue).toList.map .query) = [] := rfl
  -- Only the filters of the defaults, which stand in for flags, can be reported.
  rw [SearchOptions.pieces, unknownKeys_supplied]
  simp only [value?_query, value?_page, value?_perPage, value?_classNames, value?_sortMode, value?_sortBy, value?_weights,
    value?_filters, value?_facets, Piece.reports_append, hquery, hpage, htext, reports_names, reports_weights h,
    reports_filters]
  exact List.append_nil _

/-! ### What takes effect -/

/-- Values by field are what flags give: a field has one if a flag names it, and of several flags the last one's. -/
structure GivesLast {α : Type} (args : List String) (read : List Char → Option α) (values : Dict α) : Prop where
  fields : ∀ field, field ∈ values.keys ↔ field ∈ args.map fieldOf
  last : ∀ arg, IsLastBy fieldOf args arg → values.get? (fieldOf arg) = read (valueOf arg)

theorem givesLast_filterMap {α : Type} {args : List String} {read : List Char → RawValue} {f : RawValue → Option α}
    {g : List Char → Option α} (hread : ∀ value, f (read value) = g value)
    (h : ∀ arg ∈ args, (g (valueOf arg)).isSome = true) :
    GivesLast args g ((fieldValues read args).filterMap fun _ value => f value) where
  fields field := by
    have hnamed : field ∈ (fieldValues read args).keys ↔ field ∈ args.map fieldOf := mem_keys_fieldValues
    rw [← hnamed, SortedMap.mem_keys_iff, SortedMap.mem_keys_iff]
    constructor
    · rintro ⟨v, hv⟩
      rw [SortedMap.get?_filterMap] at hv
      obtain ⟨value, hvalue, -⟩ := Option.bind_eq_some_iff.mp hv
      exact ⟨value, hvalue⟩
    · rintro ⟨value, hvalue⟩
      obtain ⟨arg, harg, heq⟩ := exists_of_mem_fieldValues (SortedMap.get?_eq_some_iff.mp hvalue)
      obtain ⟨rfl, rfl⟩ := Prod.mk.inj heq
      rw [SortedMap.get?_filterMap, hvalue, Option.bind_some, hread]
      exact Option.isSome_iff_exists.mp (h arg harg)
  last arg harg := by
    rw [SortedMap.get?_filterMap, get?_fieldValues harg, Option.bind_some, hread]

/-- The typed options that flags ask for over defaults, and what is reported on the way to them. -/
structure TakesEffect (flags : PlanFlags) (defaults : QueryDefaults) (normalized : Reported SearchOptions) : Prop where
  diagnostics : normalized.diagnostics =
    if flags.filters = [] then (unusableFilters defaults).map .filterUnusable else []
  query : normalized.value.query = flags.query
  page : (normalized.value.page : Int) = max ((flags.page.map Int64.toInt).getD defaults.page) 1
  perPage : (normalized.value.perPage : Int) = max ((flags.perPage.map Int64.toInt).getD defaults.perPage) 1
  classNames : normalized.value.classNames = if flags.classNames = [] then defaults.classNames else flags.classNames
  sortMode : normalized.value.sortMode = flags.sortMode.getD defaults.sortMode
  sortBy : normalized.value.sortBy = (flags.sortBy <|> defaults.sortBy)
  weights : if flags.weights = [] then normalized.value.weights = defaults.weights
    else GivesLast flags.weights double? normalized.value.weights
  filters : if flags.filters = [] then
      normalized.value.filters = defaults.filters.filterMap fun _ value => Filter.ofRaw? value
    else GivesLast flags.filters (fun value => Filter.ofRaw? (filterValue value)) normalized.value.filters
  facets : normalized.value.facets = if flags.facets = [] then defaults.facets else flags.facets

theorem readCount_int (n : Option Int64) (default : Nat) :
    (readCount (n.map .int) default : Int) = max ((n.map Int64.toInt).getD default) 1 := by
  cases n with
  | none =>
    show ((max default 1 : Nat) : Int) = max (default : Int) 1
    omega
  | some n =>
    show ((max n.toInt.toNat 1 : Nat) : Int) = max n.toInt 1
    omega

theorem readNames_unlessEmpty (names default : List String) :
    readNames (unlessEmpty names nameList) default = if names = [] then default else names := by
  cases names with
  | nil => rfl
  | cons name names =>
    have hnames : ((name :: names).map RawValue.str).filterMap RawValue.str? = name :: names := by
      rw [List.filterMap_map]
      exact List.filterMap_some
    rw [if_neg (List.cons_ne_nil name names)]
    exact hnames

theorem bind_str?_map_str (text : Option String) : (text.map RawValue.str).bind RawValue.str? = text := by
  cases text <;> rfl

theorem takesEffect_supplied (h : flags.WellFormed) (defaults : QueryDefaults) :
    TakesEffect flags defaults (normalize defaults flags.supplied) := by
  rw [normalize_supplied]
  constructor
  case diagnostics =>
    dsimp only
    rw [reports_pieces h]
  case query =>
    show ((flags.supplied.value? "query").bind RawValue.queryText?).getD "" = _
    rw [value?_query]
    rfl
  case page =>
    show (readCount (flags.supplied.value? "page") defaults.page : Int) = _
    rw [value?_page, readCount_int]
  case perPage =>
    show (readCount (flags.supplied.value? "per_page") defaults.perPage : Int) = _
    rw [value?_perPage, readCount_int]
  case classNames =>
    show readNames (flags.supplied.value? "class_names") defaults.classNames = _
    rw [value?_classNames, readNames_unlessEmpty]
  case sortMode =>
    show ((flags.supplied.value? "sort_mode").bind RawValue.str?).getD defaults.sortMode = _
    rw [value?_sortMode, bind_str?_map_str]
  case sortBy =>
    show ((flags.supplied.value? "sort_by").bind RawValue.str? <|> defaults.sortBy) = _
    rw [value?_sortBy, bind_str?_map_str]
  case weights =>
    rw [reading, value?_weights, entries?_fieldOption]
    split
    · rfl
    · exact givesLast_filterMap double?_weightValue fun arg harg => (h.weights arg harg).2
  case filters =>
    rw [reading, value?_filters, entries?_fieldOption]
    split
    · rfl
    · exact givesLast_filterMap (fun _ => rfl) fun arg _ => isSome_ofRaw?_filterValue (valueOf arg)
  case facets =>
    show readNames (flags.supplied.value? "facets") defaults.facets = _
    rw [value?_facets, readNames_unlessEmpty]

/-- Flags come to options unless a weight or a filter lacks an equals sign or names no field, or a weight is no number.
    Each flag then takes effect whatever the defaults are, and no flag is reported. -/
theorem rawOptions_takesEffect (flags : PlanFlags) :
    ((∃ fault, flags.rawOptions = .error fault) ↔
      (∃ arg ∈ flags.weights ++ flags.filters, '=' ∉ arg.toList ∨ isBlankText (namePart arg) = true) ∨
      ∃ arg ∈ flags.weights, double? (valueOf arg) = none) ∧
    ∀ raw, flags.rawOptions = .ok raw → ∀ defaults, TakesEffect flags defaults (normalize defaults raw) := by
  constructor
  · exact failed_iff
  · intro raw hraw defaults
    have h : flags.WellFormed := wellFormed_iff.mpr ⟨raw, hraw⟩
    obtain rfl := Except.ok.inj (h.rawOptions_eq.symm.trans hraw)
    exact takesEffect_supplied h defaults

/-- A page out of range, two weights for one field, a choice with a blank value and a range. -/
def dogFlags : PlanFlags where
  query := "dog"
  page := some (-2)
  weights := ["title=3", "body = 0.5", " title =2"]
  filters := ["state_id=1, ,2", "price=10..20"]

theorem rawOptions_takesEffect_dogFlags :
    dogFlags.rawOptions = .ok dogFlags.supplied ∧ TakesEffect dogFlags {} (normalize {} dogFlags.supplied) := by
  have hraw : dogFlags.rawOptions = .ok dogFlags.supplied := rfl
  exact ⟨hraw, (rawOptions_takesEffect dogFlags).2 dogFlags.supplied hraw {}⟩

end PlanFlags
end SearchClient.CommandLine
