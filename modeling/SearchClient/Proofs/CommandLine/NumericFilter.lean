import SearchClient.Proofs.CommandLine.PlanFlags
import SearchClient.Proofs.Number
import SearchClient.Proofs.Request.Setting

/-! Numbers on the command line. A filter that is given with printed integers, alone, around two points or between
commas, reaches the request with just these integers, whatever white space stands around them. -/

namespace SearchClient.CommandLine
open Text SearchOptions

/-- A text of printed integers, and the filter that it stands for. -/
inductive Spells : List Char → Filter → Prop
  | equals {n : Int64} {text : List Char} (h : Prints n text) : Spells text (.equals (.int n))
  | range {a b : Int64} {low high : List Char} (hlow : Prints a low) (hhigh : Prints b high) :
    Spells (low ++ '.' :: '.' :: high) (.range (.int a) (.int b))
  | choice {ns : List Int64} {texts : List (List Char)} (hlength : 2 ≤ ns.length)
    (h : List.Forall₂ Prints ns texts) : Spells (join [','] texts) (.anyOf (ns.map .int))

/-! ### One number -/

section One
variable {n : Int64} {text : List Char}

theorem comma_not_mem (h : Prints n text) : ',' ∉ text := h.not_mem (by decide) (by decide) (by decide)

theorem point_not_mem (h : Prints n text) : '.' ∉ text := h.not_mem (by decide) (by decide) (by decide)

theorem scalarValue_of_prints (h : Prints n text) : scalarValue text = .int n := by
  rw [scalarValue, h.ofNumber?_eq]
  rfl

theorem filterValue_of_not_mem {value : List Char} (h : ',' ∉ value) : filterValue value = scalarValue value := by
  rw [filterValue, if_neg (by simpa using h)]

theorem filterValue_of_mem {value : List Char} (h : ',' ∈ value) : filterValue value =
    .list ((((pieces (· == ',') value).map trim).filter fun v => !v.isEmpty).map scalarValue) := by
  rw [filterValue, if_pos (by simpa using h)]

theorem ofRaw?_filterValue_number (h : Prints n text) : Filter.ofRaw? (filterValue text) = some (.equals (.int n)) := by
  rw [filterValue_of_not_mem (comma_not_mem h), scalarValue_of_prints h]
  rfl

end One

/-! ### Two numbers -/

section Two
variable {a b : Int64} {low high : List Char}

theorem range?_of_prints (hlow : Prints a low) (hhigh : Prints b high) :
    Filter.range? (String.ofList (low ++ '.' :: '.' :: high)) = some (.range (.int a) (.int b)) := by
  have hcut : cut? ['.', '.'] (low ++ '.' :: '.' :: high) = some (low, high) :=
    cut?_append_separator (point_not_mem hlow) ['.'] high
  rw [Filter.range?, String.toList_ofList, hcut]
  simp [hlow.ofNumber?_eq, hhigh.ofNumber?_eq]

theorem ofRaw?_filterValue_range (hlow : Prints a low) (hhigh : Prints b high) :
    Filter.ofRaw? (filterValue (low ++ '.' :: '.' :: high)) = some (.range (.int a) (.int b)) := by
  have hcomma : ',' ∉ low ++ '.' :: '.' :: high := by
    simp [comma_not_mem hlow, comma_not_mem hhigh]
  have hscalar : scalarValue (low ++ '.' :: '.' :: high) = .str (String.ofList (low ++ '.' :: '.' :: high)) := by
    rw [scalarValue, hlow.ofNumber?_append_points]
  rw [filterValue_of_not_mem hcomma, hscalar]
  exact Filter.ofRaw?_str_of_range? (range?_of_prints hlow hhigh)

end Two

/-! ### Many numbers -/

section Many
variable {ns : List Int64} {texts : List (List Char)}

theorem trimStart_join {d : Char} (hd : isBlank d = false) (text : List Char) (rest : List (List Char)) :
    trimStart (join [d] (text :: rest)) = join [d] (trimStart text :: rest) := by
  cases rest with
  | nil => rfl
  | cons next rest => rw [join_cons_cons, join_cons_cons, trimStart_append_cons hd]

/-- White space behind the last number goes, and the pieces still are the numbers. -/
theorem forall₂_pieces (h : List.Forall₂ Prints ns texts) (hne : texts ≠ []) :
    List.Forall₂ Prints ns (pieces (· == ',') (trimEnd (join [','] texts))) := by
  induction h with
  | nil => exact absurd rfl hne
  | @cons n text ns texts htext hrest ih =>
    cases hrest with
    | nil =>
      show List.Forall₂ Prints [n] (pieces (· == ',') (trimEnd text))
      rw [pieces_of_not_mem (comma_not_mem htext.trimEnd)]
      exact .cons htext.trimEnd .nil
    | cons hnext hrest =>
      rw [join_cons_cons, trimEnd_append_cons (by decide), pieces_append (by decide),
        pieces_of_not_mem (comma_not_mem htext)]
      exact .cons htext (ih (List.cons_ne_nil _ _))

theorem map_scalarValue_of_prints (h : List.Forall₂ Prints ns texts) :
    ((texts.map trim).filter fun v => !v.isEmpty).map scalarValue = (ns.map Scalar.int).map Scalar.toRaw := by
  induction h with
  | nil => rfl
  | @cons n text ns texts htext _ ih =>
    have hempty : (trim text).isEmpty = false := by
      rw [htext.trim_eq]
      exact List.isEmpty_eq_false_iff.mpr (trimmed_toString n.toInt).ne_nil
    rw [List.map_cons, List.filter_cons_of_pos (by simp [hempty]), List.map_cons, ih, scalarValue_of_prints htext.trim]
    rfl

theorem ofRaw?_filterValue_choice (hlength : 2 ≤ ns.length) (h : List.Forall₂ Prints ns texts) :
    Filter.ofRaw? (filterValue (trim (join [','] texts))) = some (.anyOf (ns.map .int)) := by
  cases h with
  | nil => simp at hlength
  | @cons n text ns texts hfirst hrest =>
    have hcomma : ',' ∈ trim (join [','] (text :: texts)) := by
      cases hrest with
      | nil => simp at hlength
      | cons _ _ =>
        rw [join_cons_cons, trim_append_cons (by decide)]
        exact List.mem_append_right _ List.mem_cons_self
    have hpieces : List.Forall₂ Prints (n :: ns) (pieces (· == ',') (trim (join [','] (text :: texts)))) := by
      rw [trim, trimStart_join (by decide)]
      exact forall₂_pieces (.cons hfirst.trimStart hrest) (List.cons_ne_nil _ _)
    rw [filterValue_of_mem hcomma, map_scalarValue_of_prints hpieces]
    exact Filter.ofRaw?_list_toRaw _

end Many

theorem ofRaw?_filterValue_of_spells {text : List Char} {filter : Filter} (h : Spells text filter) :
    Filter.ofRaw? (filterValue (trim text)) = some filter := by
  cases h with
  | equals h => exact ofRaw?_filterValue_number h.trim
  | range hlow hhigh =>
    rw [trim_append_points]
    exact ofRaw?_filterValue_range hlow.trimStart hhigh.trimEnd
  | choice hlength h => exact ofRaw?_filterValue_choice hlength h

/-! ### One filter -/

section Argument
variable {field : String} {text : List Char}

theorem toList_argument (field : String) (text : List Char) :
    (field ++ "=" ++ String.ofList text).toList = field.toList ++ '=' :: text := by
  rw [String.toList_append, String.toList_append, List.append_assoc]
  exact congrArg (fun cs => field.toList ++ '=' :: cs) String.toList_ofList

theorem namePart_argument (hequals : '=' ∉ field.toList) : namePart (field ++ "=" ++ String.ofList text) = field.toList := by
  rw [namePart, toList_argument]
  exact takeWhile_append_of_stop (bne_of_not_mem hequals) (by simp)

theorem fieldOf_argument (hequals : '=' ∉ field.toList) (htrim : trim field.toList = field.toList) :
    fieldOf (field ++ "=" ++ String.ofList text) = field := by
  rw [fieldOf, namePart_argument hequals, htrim, String.ofList_toList]

theorem valueOf_argument (hequals : '=' ∉ field.toList) :
    valueOf (field ++ "=" ++ String.ofList text) = trim text := by
  rw [valueOf, toList_argument, dropWhile_append_of_stop (bne_of_not_mem hequals) (by simp)]
  rfl

theorem isPair_argument (hequals : '=' ∉ field.toList) (htrim : trim field.toList = field.toList) (hne : field ≠ "") :
    IsPair (field ++ "=" ++ String.ofList text) where
  equals := by
    rw [toList_argument]
    exact List.mem_append_right _ List.mem_cons_self
  named := by
    rw [namePart_argument hequals, ← isEmpty_trim, htrim, List.isEmpty_eq_false_iff]
    exact fun hnil => hne (String.toList_eq_nil_iff.mp hnil)

end Argument

/-- A search with a single filter. -/
def filterFlags (query field : String) (text : List Char) : PlanFlags where
  query
  filters := [field ++ "=" ++ String.ofList text]

/-- A filter that spells integers on another field than the class id is the filter of the request on that field, whatever
    the configuration is, as long as its sort mode is known. -/
theorem filter?_of_spells {field : String} {text : List Char} {filter : Filter} (hne : field ≠ "")
    (htrim : trim field.toList = field.toList) (hequals : '=' ∉ field.toList) (hclass : field ≠ Request.classIdAttribute)
    (htext : Spells text filter) {defaults : QueryDefaults} {mode : SortMode}
    (hmode : SortMode.ofName? defaults.sortMode = .ok mode) (query : String) (settings : DaemonSettings) (map : ClassMap) :
    ∃ raw built, (filterFlags query field text).rawOptions = .ok raw ∧
      Request.build settings map (normalize defaults raw).value = .ok built ∧
      built.value.filter? field = some filter := by
  have hflags : (filterFlags query field text).WellFormed := by
    constructor
    · exact List.forall_mem_nil _
    · exact List.forall_mem_singleton.mpr (isPair_argument hequals htrim hne)
  have heffect := PlanFlags.takesEffect_supplied hflags defaults
  have hfilters := heffect.filters
  have hargs : (filterFlags query field text).filters ≠ [] := List.cons_ne_nil _ _
  rw [if_neg hargs] at hfilters
  have hget : (normalize defaults (filterFlags query field text).supplied).value.filters.get? field = some filter := by
    have hlast := hfilters.last (field ++ "=" ++ String.ofList text) ⟨[], [], rfl, List.forall_mem_nil _⟩
    rw [fieldOf_argument hequals htrim, valueOf_argument hequals, ofRaw?_filterValue_of_spells htext] at hlast
    exact hlast
  have hsort : SortMode.ofName? (normalize defaults (filterFlags query field text).supplied).value.sortMode = .ok mode := by
    rw [heffect.sortMode]
    exact hmode
  obtain ⟨built, hbuilt⟩ := Request.exists_build settings map hsort
  refine ⟨_, built, hflags.rawOptions_eq, hbuilt, ?_⟩
  exact (Request.filter?_build_of_ne hbuilt hclass).mpr hget

/-- From the least integer to the greatest. -/
def extremeRange : List Char := " -9223372036854775808 ..\t9223372036854775807".toList

theorem spells_extremeRange : Spells extremeRange (.range (.int Int64.minValue) (.int Int64.maxValue)) := by
  have hspace : ∀ c ∈ [' '], isBlank c = true := List.forall_mem_singleton.mpr rfl
  have htab : ∀ c ∈ ['\t'], isBlank c = true := List.forall_mem_singleton.mpr rfl
  have hlow : Prints Int64.minValue " -9223372036854775808 ".toList := ⟨[' '], [' '], by decide +kernel, hspace, hspace⟩
  have hhigh : Prints Int64.maxValue "\t9223372036854775807".toList :=
    ⟨['\t'], [], by decide +kernel, htab, List.forall_mem_nil _⟩
  exact .range hlow hhigh

theorem filter?_of_spells_extremeRange :
    "price" ≠ "" ∧ trim "price".toList = "price".toList ∧ '=' ∉ "price".toList ∧ "price" ≠ Request.classIdAttribute ∧
    Spells extremeRange (.range (.int Int64.minValue) (.int Int64.maxValue)) ∧
    SortMode.ofName? ({} : QueryDefaults).sortMode = .ok .relevance ∧
    ∃ raw built, (filterFlags "dog" "price" extremeRange).rawOptions = .ok raw ∧
      Request.build {} .empty (normalize {} raw).value = .ok built ∧
      built.value.filter? "price" = some (.range (.int Int64.minValue) (.int Int64.maxValue)) := by
  have htrim : trim "price".toList = "price".toList := by decide
  exact ⟨by decide, htrim, by decide, by decide, spells_extremeRange, rfl,
    filter?_of_spells (by decide) htrim (by decide) (by decide) spells_extremeRange rfl "dog" {} .empty⟩

end SearchClient.CommandLine
