import SearchClient.Options.Normalize
import SearchClient.Proofs.Request.Admission

/-! Whether a built request accepts the documents that its options select. Class names ask for a filter on the class
    id, and setting it drops the filter that the options may have there; so the request accepts what the options
    select, except that documents of the classes that are named need not pass the filter that was dropped. -/

namespace SearchClient

/-! ### Documents and filters -/

/-- How the daemon compares the value of a filter with the value of an attribute: integers as integers, and other
    values in a way of its own, if at all. -/
structure Comparison where
  compare? : Scalar → Scalar → Option Ordering
  compare?_int : ∀ m n : Int64, compare? (.int m) (.int n) = some (compare m.toInt n.toInt)

/-- The comparison of integers only. -/
def Comparison.integers : Comparison where
  compare?
    | .int m, .int n => some (compare m.toInt n.toInt)
    | _, _ => none
  compare?_int _ _ := rfl

/-- Whether a filter accepts the value of an attribute. -/
def Filter.accepts (comparison : Comparison) : Filter → Scalar → Bool
  | .equals value, x => comparison.compare? value x == some .eq
  | .anyOf values, x => values.any fun value => comparison.compare? value x == some .eq
  | .range min max, x => (comparison.compare? min x).any (·.isLE) && (comparison.compare? max x).any (·.isGE)

/-- A document of an index. Its class id is an integer, and its other attributes have values of any kind. -/
structure IndexEntry where
  classId? : Option Int64
  other? : String → Option Scalar

namespace IndexEntry

/-- The value of an attribute. -/
def attribute? (doc : IndexEntry) (field : String) : Option Scalar :=
  if field = Request.classIdAttribute then doc.classId?.map .int else doc.other? field

/-- A document passes a filter if it has the attribute and the filter accepts its value. -/
def Passes (comparison : Comparison) (doc : IndexEntry) (field : String) (filter : Filter) : Prop :=
  ∃ value, doc.attribute? field = some value ∧ filter.accepts comparison value

def IsOf (doc : IndexEntry) (id : UInt32) : Prop := doc.classId? = some (Int64.ofNat id.toNat)

end IndexEntry

/-- Whether a document passes all filters of a request. -/
def Request.Accepts (comparison : Comparison) (request : Request) (doc : IndexEntry) : Prop :=
  ∀ f ∈ request.filters, doc.Passes comparison f.1 f.2

namespace SearchOptions

/-- Whether a document is of a class that class names ask for, if there are any. -/
def SelectsClass (map : ClassMap) (options : SearchOptions) (doc : IndexEntry) : Prop :=
  options.classNames ≠ [] → ∃ name ∈ options.classNames, ∃ id, map.idOf? name = some id ∧ doc.IsOf id

/-- Options select the documents that pass every filter and are of a class that is asked for. -/
def Selects (comparison : Comparison) (map : ClassMap) (options : SearchOptions) (doc : IndexEntry) : Prop :=
  (∀ field filter, options.filters.get? field = some filter → doc.Passes comparison field filter) ∧
    options.SelectsClass map doc

/-- The documents that options select if class names take the place of a filter on the class id. -/
def SelectsByNames (comparison : Comparison) (map : ClassMap) (options : SearchOptions) (doc : IndexEntry) : Prop :=
  (∀ field filter, options.filters.get? field = some filter →
      options.classNames = [] ∨ field ≠ Request.classIdAttribute → doc.Passes comparison field filter) ∧
    options.SelectsClass map doc

/-- The filter on the class id makes no difference beside class names: there are no names, or the filter accepts the
    ids of all classes that they name, or another filter accepts nothing at all. -/
def NamesAgree (comparison : Comparison) (map : ClassMap) (options : SearchOptions) : Prop :=
  options.classNames = [] ∨
    (∀ filter, options.filters.get? Request.classIdAttribute = some filter →
      ∀ name ∈ options.classNames, ∀ id, map.idOf? name = some id →
        filter.accepts comparison (Request.classValue id)) ∨
    ∃ field filter, options.filters.get? field = some filter ∧ field ≠ Request.classIdAttribute ∧
      ∀ value, ¬filter.accepts comparison value

end SearchOptions

/-! ### What a built request accepts -/

section Built
variable {comparison : Comparison} {settings : DaemonSettings} {map : ClassMap} {options : SearchOptions}
  {built : Reported Request} {doc : IndexEntry} {filter : Filter} {id : UInt32}

theorem IndexEntry.passes_classId_iff : doc.Passes comparison Request.classIdAttribute filter ↔
    ∃ n, doc.classId? = some n ∧ filter.accepts comparison (.int n) := by
  simp [IndexEntry.Passes, IndexEntry.attribute?]

theorem IndexEntry.IsOf.passes_iff (h : doc.IsOf id) : doc.Passes comparison Request.classIdAttribute filter ↔
    filter.accepts comparison (Request.classValue id) := by
  rw [IndexEntry.passes_classId_iff, h, Request.classValue]
  simp

theorem compare?_classValue_int {n : Int64} :
    comparison.compare? (Request.classValue id) (.int n) = some .eq ↔ n = Int64.ofNat id.toNat := by
  rw [Request.classValue, comparison.compare?_int, Option.some_inj, Int.compare_eq_eq, Int64.toInt_inj, eq_comm]

theorem passes_classFilter : doc.Passes comparison Request.classIdAttribute (Request.classFilter map options) ↔
    ∃ name ∈ options.classNames, ∃ id, map.idOf? name = some id ∧ doc.IsOf id := by
  have haccepts (n : Int64) : (Request.classFilter map options).accepts comparison (.int n) ↔
      ∃ name ∈ options.classNames, ∃ id, map.idOf? name = some id ∧ n = Int64.ofNat id.toNat := by
    simp only [Request.classFilter, Filter.accepts, List.any_map, List.any_eq_true, Function.comp_apply, beq_iff_eq,
      compare?_classValue_int, Request.mem_classIdsFor]
    grind
  rw [IndexEntry.passes_classId_iff]
  simp only [haccepts, IndexEntry.IsOf]
  grind

theorem accepts_build (h : Request.build settings map options = .ok built) :
    built.value.Accepts comparison doc ↔ options.SelectsByNames comparison map doc := by
  rw [SearchOptions.SelectsByNames, SearchOptions.SelectsClass, ← passes_classFilter, Request.Accepts]
  simp only [Request.mem_filters_build h, Prod.forall]
  by_cases hnames : options.classNames = []
  · simp [hnames]
  · simp only [hnames, if_false, false_or, ne_eq, not_false_eq_true, true_implies, Prod.mk.injEq]
    constructor
    · exact fun h => ⟨fun field filter hfilter hne => h field filter (.inr ⟨hfilter, hne⟩),
        h _ _ (.inl ⟨rfl, rfl⟩)⟩
    · rintro ⟨hothers, hclass⟩ field filter (⟨rfl, rfl⟩ | ⟨hfilter, hne⟩)
      · exact hclass
      · exact hothers field filter hfilter hne

end Built

/-! ### Where the filter on the class id makes no difference -/

section Agreement
variable {comparison : Comparison} {map : ClassMap} {options : SearchOptions} {doc : IndexEntry}

theorem selects_iff : options.Selects comparison map doc ↔ options.SelectsByNames comparison map doc ∧
    ∀ filter, options.filters.get? Request.classIdAttribute = some filter →
      doc.Passes comparison Request.classIdAttribute filter := by
  constructor
  · rintro ⟨hfilters, hclass⟩
    exact ⟨⟨fun field filter hfilter _ => hfilters field filter hfilter, hclass⟩, hfilters _⟩
  · rintro ⟨⟨hothers, hclass⟩, hid⟩
    refine ⟨fun field filter hfilter => ?_, hclass⟩
    by_cases hfield : field = Request.classIdAttribute
    · subst hfield
      exact hid filter hfilter
    · exact hothers field filter hfilter (.inr hfield)

/-- If all filters on other attributes accept something, some document of a given class passes them. -/
theorem exists_passing_others (comparison : Comparison) (options : SearchOptions) (id : UInt32)
    (h : ∀ field filter, options.filters.get? field = some filter → field ≠ Request.classIdAttribute →
      ∃ value, filter.accepts comparison value) :
    ∃ doc : IndexEntry, doc.IsOf id ∧
      ∀ field filter, options.filters.get? field = some filter → field ≠ Request.classIdAttribute →
        doc.Passes comparison field filter := by
  have hvalues (field : String) : ∃ value : Option Scalar, ∀ filter, options.filters.get? field = some filter →
      field ≠ Request.classIdAttribute → ∃ v, value = some v ∧ filter.accepts comparison v := by
    cases hfilter : options.filters.get? field with
    | none => exact ⟨none, by simp⟩
    | some filter =>
      by_cases hfield : field = Request.classIdAttribute
      · exact ⟨none, by simp [hfield]⟩
      · obtain ⟨value, hvalue⟩ := h field filter hfilter hfield
        exact ⟨some value, by simp [hvalue]⟩
  choose other? hother using hvalues
  refine ⟨⟨some (Int64.ofNat id.toNat), other?⟩, rfl, fun field filter hfilter hfield => ?_⟩
  rw [IndexEntry.Passes, IndexEntry.attribute?, if_neg hfield]
  exact hother field filter hfilter hfield

/-- If class names take the place of a filter on the class id, the same documents are selected exactly if that filter
    makes no difference. -/
theorem selectsByNames_iff_selects :
    (∀ doc, options.SelectsByNames comparison map doc ↔ options.Selects comparison map doc) ↔
      options.NamesAgree comparison map := by
  simp only [selects_iff, iff_self_and]
  by_cases hnames : options.classNames = []
  · simp only [SearchOptions.NamesAgree, hnames, true_or, iff_true]
    exact fun doc h filter hfilter => h.1 _ filter hfilter (.inl hnames)
  by_cases hothers : ∃ field filter, options.filters.get? field = some filter ∧ field ≠ Request.classIdAttribute ∧
      ∀ value, ¬filter.accepts comparison value
  · simp only [SearchOptions.NamesAgree, hothers, or_true, iff_true]
    obtain ⟨field, filter, hfilter, hfield, hnothing⟩ := hothers
    intro doc h
    obtain ⟨value, -, haccepts⟩ := h.1 field filter hfilter (.inr hfield)
    exact absurd haccepts (hnothing value)
  · simp only [SearchOptions.NamesAgree, hnames, hothers, false_or, or_false]
    push Not at hothers
    constructor
    · -- A document of a named class that passes the other filters shows what the dropped filter accepts.
      intro h filter hfilter name hname id hid
      obtain ⟨doc, hclass, hpasses⟩ := exists_passing_others comparison options id hothers
      have hselected : options.SelectsByNames comparison map doc :=
        ⟨fun field filter hfilter hfield => hpasses field filter hfilter (hfield.resolve_left hnames),
          fun _ => ⟨name, hname, id, hid, hclass⟩⟩
      exact hclass.passes_iff.mp (h doc hselected filter hfilter)
    · intro h doc hselected filter hfilter
      obtain ⟨name, hname, id, hid, hclass⟩ := hselected.2 hnames
      exact hclass.passes_iff.mpr (h filter hfilter name hname id hid)

end Agreement

/-- With a known sort mode a request is built. It accepts the documents that pass the filters, where class names take
    the place of a filter on the class id, and are of a class that is asked for. These are the documents that the
    options select exactly if the filter on the class id makes no difference beside the class names. -/
theorem accepts_build_iff_selects (comparison : Comparison) (settings : DaemonSettings) (map : ClassMap)
    {options : SearchOptions} {mode : SortMode} (hmode : SortMode.ofName? options.sortMode = .ok mode) :
    ∃ built, Request.build settings map options = .ok built ∧
      (∀ doc, built.value.Accepts comparison doc ↔ options.SelectsByNames comparison map doc) ∧
      ((∀ doc, built.value.Accepts comparison doc ↔ options.Selects comparison map doc) ↔
        options.NamesAgree comparison map) := by
  obtain ⟨built, hbuilt⟩ := Request.exists_build settings map hmode
  refine ⟨built, hbuilt, fun doc => accepts_build hbuilt, ?_⟩
  rw [← selectsByNames_iff_selects]
  exact forall_congr' fun doc => by rw [accepts_build hbuilt]

/-! ### Users with the class id of sellers -/

def sellerAndUserIds : ClassMap := .ofPairs [("Seller", 0), ("User", 1)]

/-- Users are asked for by name, and the filter on the class id asks for sellers. -/
def sellersAmongUsers : SearchOptions :=
  (SearchOptions.normalize {} (.ofList
    [("class_names", .list [.str "User"]), ("filters", .map [("class_id", .int 0)])])).value

theorem accepts_build_sellersAmongUsers :
    SortMode.ofName? sellersAmongUsers.sortMode = .ok .relevance ∧
    ∃ built, Request.build {} sellerAndUserIds sellersAmongUsers = .ok built ∧
      (∀ doc, built.value.Accepts .integers doc ↔ sellersAmongUsers.SelectsByNames .integers sellerAndUserIds doc) ∧
      ((∀ doc, built.value.Accepts .integers doc ↔ sellersAmongUsers.Selects .integers sellerAndUserIds doc) ↔
        sellersAmongUsers.NamesAgree .integers sellerAndUserIds) :=
  ⟨rfl, accepts_build_iff_selects .integers {} sellerAndUserIds rfl⟩

/-- The request accepts a user, whom the options do not select, and nothing reports the filter that was dropped. -/
theorem not_selects_sellersAmongUsers :
    ∃ built, Request.build {} sellerAndUserIds sellersAmongUsers = .ok built ∧ built.diagnostics = [] ∧
      built.value.Accepts .integers ⟨some 1, fun _ => none⟩ ∧
      ¬sellersAmongUsers.Selects .integers sellerAndUserIds ⟨some 1, fun _ => none⟩ := by
  refine ⟨_, rfl, by decide, fun f hf => ?_, fun h => ?_⟩
  · obtain rfl := List.mem_singleton.mp hf
    exact ⟨.int 1, rfl, rfl⟩
  · obtain ⟨value, hvalue, haccepts⟩ := h.1 Request.classIdAttribute (.equals (.int 0)) rfl
    obtain rfl := Option.some.inj hvalue
    exact absurd haccepts (by decide)

end SearchClient
