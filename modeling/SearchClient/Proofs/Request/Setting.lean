import SearchClient.Proofs.Request.Build

/-! Settings given one after another. What a request holds afterwards depends on the last setting of each kind alone, for
filters on the last one of each attribute, and filters stand in the order in which their attributes were last set. So
settings of different kinds may be given in any order among each other. -/

namespace SearchClient

/-! ### The last element of each value -/

theorem dedup_append_singleton {α : Type} [DecidableEq α] (as : List α) (a : α) :
    (as ++ [a]).dedup = as.dedup.filter (· != a) ++ [a] := by
  induction as with
  | nil => rfl
  | cons b as ih =>
    rw [List.cons_append, List.dedup_cons, List.dedup_cons, ih]
    by_cases hba : b = a
    · subst hba
      by_cases hmem : b ∈ as <;> simp [hmem]
    · by_cases hmem : b ∈ as <;> simp [hmem, hba]

namespace SortedMap
variable {κ α : Type} [DecidableEq κ]

theorem lookup_eq_find? (k : κ) : ∀ es : List (κ × α), lookup k es = (es.find? fun e => e.1 == k).map (·.2)
  | [] => rfl
  | e :: es => by
    by_cases h : e.1 = k
    · simp [lookup, h]
    · simp [lookup, h, lookup_eq_find? k es]

/-- Entries without repeated keys are told by their keys in order and the value of each key. -/
theorem filterMap_lookup {es : List (κ × α)} (h : (es.map Prod.fst).Nodup) :
    ((es.map Prod.fst).filterMap fun k => (lookup k es).map (k, ·)) = es := by
  rw [List.filterMap_map]
  refine (List.filterMap_congr fun e he => ?_).trans List.filterMap_some
  rw [Function.comp_apply, (lookup_eq_some_iff h).mpr he, Option.map_some]

end SortedMap

/-! ### Settings -/

/-- A step that sets a part of a request. -/
inductive Setting where
  | setFilter (field : String) (filter : Filter)
  | setWeights (weights : Dict Double)
  | setSortMode (mode : SortMode) (sortBy : Option String)
  | setLimits (offset limit maxMatches : Nat)
  | setGroupBy (field order : String)

namespace Setting

inductive Kind where
  | filter
  | weights
  | sortMode
  | limits
  | groupBy
deriving DecidableEq

def kind : Setting → Kind
  | setFilter .. => .filter
  | setWeights .. => .weights
  | setSortMode .. => .sortMode
  | setLimits .. => .limits
  | setGroupBy .. => .groupBy

def field? : Setting → Option String
  | setFilter field _ => some field
  | _ => none

def filterOn? (field : String) : Setting → Option Filter
  | setFilter field' filter => if field' = field then some filter else none
  | _ => none

def weights? : Setting → Option (Dict Double)
  | setWeights weights => some weights
  | _ => none

def order? : Setting → Option (SortMode × Option String)
  | setSortMode mode sortBy => some (mode, sortBy)
  | _ => none

def window? : Setting → Option (Nat × Nat × Nat)
  | setLimits offset limit maxMatches => some (offset, limit, maxMatches)
  | _ => none

def grouping? : Setting → Option (Option String × Option String)
  | setGroupBy field order => some (some field, some order)
  | _ => none

/-! ### Kinds

What only settings of one kind give is given by the settings of that kind. -/

theorem filterMap_of_kind {β : Type} {given? : Setting → Option β} {kind : Kind}
    (h : ∀ setting, setting.kind ≠ kind → given? setting = none) (settings : List Setting) :
    (settings.filter (·.kind == kind)).filterMap given? = settings.filterMap given? := by
  rw [List.filterMap_filter]
  refine List.filterMap_congr fun setting _ => ?_
  by_cases hkind : setting.kind = kind
  · simp [hkind]
  · simp [hkind, h setting hkind]

section Kinds
variable {setting : Setting}

theorem field?_of_kind (h : setting.kind ≠ .filter) : setting.field? = none := by
  cases setting with
  | setFilter field filter => exact absurd rfl h
  | _ => rfl

theorem filterOn?_of_kind (field : String) (h : setting.kind ≠ .filter) : setting.filterOn? field = none := by
  cases setting with
  | setFilter field filter => exact absurd rfl h
  | _ => rfl

theorem weights?_of_kind (h : setting.kind ≠ .weights) : setting.weights? = none := by
  cases setting with
  | setWeights weights => exact absurd rfl h
  | _ => rfl

theorem order?_of_kind (h : setting.kind ≠ .sortMode) : setting.order? = none := by
  cases setting with
  | setSortMode mode sortBy => exact absurd rfl h
  | _ => rfl

theorem window?_of_kind (h : setting.kind ≠ .limits) : setting.window? = none := by
  cases setting with
  | setLimits offset limit maxMatches => exact absurd rfl h
  | _ => rfl

theorem grouping?_of_kind (h : setting.kind ≠ .groupBy) : setting.grouping? = none := by
  cases setting with
  | setGroupBy field order => exact absurd rfl h
  | _ => rfl

end Kinds

end Setting

namespace Request

def set (request : Request) : Setting → Request
  | .setFilter field filter => request.setFilter field filter
  | .setWeights weights => request.setWeights weights
  | .setSortMode mode sortBy => request.setSortMode mode sortBy
  | .setLimits offset limit maxMatches => request.setLimits offset limit maxMatches
  | .setGroupBy field order => request.setGroupBy field order

/-- The request after settings that are given one after another. -/
def ofSettings (settings : List Setting) : Request := settings.foldl set {}

theorem ofSettings_append_singleton (settings : List Setting) (setting : Setting) :
    ofSettings (settings ++ [setting]) = (ofSettings settings).set setting := by
  rw [ofSettings, List.foldl_append]
  rfl

def fields (request : Request) : List String := request.filters.map Prod.fst

def order (request : Request) : SortMode × Option String := (request.sortMode, request.sortBy)

def grouping (request : Request) : Option String × Option String := (request.groupBy, request.groupSort)

/-! ### One setting -/

section Step
variable (request : Request) (setting : Setting)

theorem fields_set : (request.set setting).fields =
    match setting.field? with
    | some field => request.fields.filter (· != field) ++ [field]
    | none => request.fields := by
  cases setting with
  | setFilter field filter =>
    show (request.filters.filter _ ++ [(field, filter)]).map Prod.fst = (request.filters.map Prod.fst).filter _ ++ [field]
    rw [List.map_append, List.filter_map]
    rfl
  | _ => rfl

theorem filter?_eq_lookup (field : String) : request.filter? field = SortedMap.lookup field request.filters :=
  (SortedMap.lookup_eq_find? field request.filters).symm

theorem filter?_set (field : String) :
    (request.set setting).filter? field = (setting.filterOn? field).or (request.filter? field) := by
  cases setting with
  | setFilter field' filter =>
    show (request.setFilter field' filter).filter? field = _
    rw [filter?_eq_lookup, filter?_eq_lookup, setFilter, SortedMap.lookup_append, SortedMap.lookup_filter_ne]
    by_cases h : field' = field <;> simp [SortedMap.lookup, Setting.filterOn?, h]
  | _ => rfl

theorem fieldWeights_set :
    (request.set setting).fieldWeights = setting.weights?.getD request.fieldWeights := by
  cases setting <;> rfl

theorem order_set : (request.set setting).order = setting.order?.getD request.order := by
  cases setting <;> rfl

theorem window_set : (request.set setting).window = setting.window?.getD request.window := by
  cases setting <;> rfl

theorem grouping_set : (request.set setting).grouping = setting.grouping?.getD request.grouping := by
  cases setting <;> rfl

end Step

/-! ### All settings -/

section All
variable (settings : List Setting)

/-- A part that each setting gives or leaves alone is the one that was given last. -/
theorem part_ofSettings {β : Type} {part : Request → β} {given? : Setting → Option β}
    (h : ∀ request setting, part (request.set setting) = (given? setting).getD (part request)) :
    part (ofSettings settings) = (settings.filterMap given?).getLast?.getD (part {}) := by
  induction settings using List.reverseRecOn with
  | nil => rfl
  | append_singleton settings setting ih =>
    rw [ofSettings_append_singleton, h, ih, List.filterMap_append]
    cases hgiven : given? setting with
    | none => simp [hgiven]
    | some value => simp [hgiven]

theorem filter?_ofSettings (field : String) :
    (ofSettings settings).filter? field = (settings.filterMap (Setting.filterOn? field)).getLast? := by
  induction settings using List.reverseRecOn with
  | nil => rfl
  | append_singleton settings setting ih =>
    rw [ofSettings_append_singleton, filter?_set, ih, List.filterMap_append]
    cases hgiven : setting.filterOn? field with
    | none => simp [hgiven]
    | some filter => simp [hgiven]

theorem fields_ofSettings : (ofSettings settings).fields = (settings.filterMap Setting.field?).dedup := by
  induction settings using List.reverseRecOn with
  | nil => rfl
  | append_singleton settings setting ih =>
    rw [ofSettings_append_singleton, fields_set, ih, List.filterMap_append]
    cases hfield : setting.field? with
    | none => simp [hfield]
    | some field => simp [hfield, dedup_append_singleton]

end All

/-! ### What the last settings leave -/

/-- A request holds what was set last: its fields are listed by their last filters, each filter is the last one of its
    field, and each other part is the last one that was given, or its default. -/
structure HoldsLast (settings : List Setting) (request : Request) : Prop where
  nodup : request.fields.Nodup
  fields : request.fields = (settings.filterMap Setting.field?).dedup
  filter? : ∀ field, request.filter? field = (settings.filterMap (Setting.filterOn? field)).getLast?
  fieldWeights : request.fieldWeights = (settings.filterMap Setting.weights?).getLast?.getD .empty
  order : request.order = (settings.filterMap Setting.order?).getLast?.getD (.relevance, none)
  window : request.window = (settings.filterMap Setting.window?).getLast?.getD (0, 20, 1000)
  grouping : request.grouping = (settings.filterMap Setting.grouping?).getLast?.getD (none, none)

theorem holdsLast_ofSettings (settings : List Setting) : (ofSettings settings).HoldsLast settings where
  nodup := by
    rw [fields_ofSettings]
    exact List.nodup_dedup _
  fields := fields_ofSettings settings
  filter? := filter?_ofSettings settings
  fieldWeights := part_ofSettings settings fieldWeights_set
  order := part_ofSettings settings order_set
  window := part_ofSettings settings window_set
  grouping := part_ofSettings settings grouping_set

theorem filters_eq_filterMap {request : Request} (h : request.fields.Nodup) :
    request.filters = request.fields.filterMap fun field => (request.filter? field).map (field, ·) := by
  simp only [filter?_eq_lookup]
  exact (SortedMap.filterMap_lookup h).symm

namespace HoldsLast
variable {settings settings' : List Setting} {request request' : Request}

theorem unique (h : request.HoldsLast settings) (h' : request'.HoldsLast settings) : request = request' := by
  have hfilters : request.filters = request'.filters := by
    rw [filters_eq_filterMap h.nodup, filters_eq_filterMap h'.nodup, h.fields, h'.fields]
    simp only [h.filter?, h'.filter?]
  have hweights := h.fieldWeights.trans h'.fieldWeights.symm
  have horder := h.order.trans h'.order.symm
  have hwindow := h.window.trans h'.window.symm
  have hgrouping := h.grouping.trans h'.grouping.symm
  cases request
  cases request'
  simp_all [Request.order, Request.window, Request.grouping]

/-- Only the settings of each kind among themselves matter. -/
theorem of_kinds (hkinds : ∀ kind, settings'.filter (·.kind == kind) = settings.filter (·.kind == kind))
    (h : request.HoldsLast settings) : request.HoldsLast settings' := by
  have hgiven {β : Type} {given? : Setting → Option β} {kind : Setting.Kind}
      (hkind : ∀ setting, setting.kind ≠ kind → given? setting = none) :
      settings.filterMap given? = settings'.filterMap given? := by
    rw [← Setting.filterMap_of_kind hkind, ← hkinds, Setting.filterMap_of_kind hkind]
  obtain ⟨hnodup, hfields, hfilter?, hweights, horder, hwindow, hgrouping⟩ := h
  rw [hgiven fun _ => Setting.field?_of_kind] at hfields
  rw [hgiven fun _ => Setting.weights?_of_kind] at hweights
  rw [hgiven fun _ => Setting.order?_of_kind] at horder
  rw [hgiven fun _ => Setting.window?_of_kind] at hwindow
  rw [hgiven fun _ => Setting.grouping?_of_kind] at hgrouping
  refine ⟨hnodup, hfields, fun field => ?_, hweights, horder, hwindow, hgrouping⟩
  rw [hfilter?, hgiven fun _ => Setting.filterOn?_of_kind field]

end HoldsLast

theorem set_comm (request : Request) {setting setting' : Setting} (h : setting.kind ≠ setting'.kind) :
    (request.set setting).set setting' = (request.set setting').set setting := by
  cases setting <;> cases setting' <;> first | exact absurd rfl h | rfl

/-- After settings that are given one after another a request holds what was set last, and no other request does. So
    settings of different kinds commute: only the order among those of each kind matters. -/
theorem eq_ofSettings_iff_holdsLast (settings : List Setting) :
    (∀ request : Request, request = ofSettings settings ↔ request.HoldsLast settings) ∧
    (∀ settings', (∀ kind, settings'.filter (·.kind == kind) = settings.filter (·.kind == kind)) →
      ofSettings settings' = ofSettings settings) ∧
    ∀ (request : Request) (setting setting' : Setting), setting.kind ≠ setting'.kind →
      (request.set setting).set setting' = (request.set setting').set setting := by
  refine ⟨fun request => ⟨?_, fun h => h.unique (holdsLast_ofSettings settings)⟩, fun settings' hkinds => ?_,
    fun request _ _ => set_comm request⟩
  · rintro rfl
    exact holdsLast_ofSettings settings
  · exact (holdsLast_ofSettings settings').unique ((holdsLast_ofSettings settings).of_kinds hkinds)

/-- A color, a size and a window are asked for, and then another color. -/
def recolored : List Setting :=
  [.setFilter "color" (.equals (.str "red")), .setFilter "size" (.equals (.int 3)), .setLimits 0 5 100,
    .setFilter "color" (.equals (.str "blue"))]

/-- The window may come first; the last color stands behind the size. -/
theorem eq_ofSettings_iff_holdsLast_recolored :
    (ofSettings recolored).HoldsLast recolored ∧
    ofSettings (.setLimits 0 5 100 :: recolored.filter (·.kind == .filter)) = ofSettings recolored ∧
    (ofSettings recolored).filters = [("size", .equals (.int 3)), ("color", .equals (.str "blue"))] := by
  obtain ⟨hlast, hkinds, -⟩ := eq_ofSettings_iff_holdsLast recolored
  refine ⟨(hlast _).mp rfl, hkinds _ fun kind => ?_, by decide⟩
  cases kind <;> rfl

/-! ### Built requests -/

section Built
variable {settings : DaemonSettings} {map : ClassMap} {options : SearchOptions} {built : Reported Request}

theorem foldl_setFilter_ofSettings (fs : List (String × Filter)) (given : List Setting) :
    fs.foldl (fun r f => r.setFilter f.1 f.2) (ofSettings given) =
      ofSettings (given ++ fs.map fun f => .setFilter f.1 f.2) := by
  rw [ofSettings, ofSettings, List.foldl_append, List.foldl_map]
  rfl

theorem exists_ofSettings_build (h : build settings map options = .ok built) :
    ∃ given, built.value = ofSettings given := by
  obtain ⟨mode, hvalue⟩ := value_build h
  have hfiltered : ∃ given, filtered settings options mode = ofSettings given :=
    ⟨_, foldl_setFilter_ofSettings options.filters.toList [.setSortMode mode _, .setWeights _, .setLimits _ _ _]⟩
  obtain ⟨given, hgiven⟩ := hfiltered
  rw [hvalue, hgiven]
  split
  · exact ⟨given, rfl⟩
  · exact ⟨_, (ofSettings_append_singleton given (.setFilter classIdAttribute (classFilter map options))).symm⟩

theorem filter?_build (h : build settings map options = .ok built) {field : String} {filter : Filter} :
    built.value.filter? field = some filter ↔ (field, filter) ∈ built.value.filters := by
  obtain ⟨given, hgiven⟩ := exists_ofSettings_build h
  have hnodup : built.value.fields.Nodup := hgiven ▸ (holdsLast_ofSettings given).nodup
  rw [filter?_eq_lookup, SortedMap.lookup_eq_some_iff hnodup]

/-- The filter of a field is that of the options; only the one on the class id may be another. -/
theorem filter?_build_of_ne (h : build settings map options = .ok built) {field : String} (hne : field ≠ classIdAttribute)
    {filter : Filter} : built.value.filter? field = some filter ↔ options.filters.get? field = some filter := by
  rw [filter?_build h, mem_filters_build h]
  split
  · rfl
  · have hclass : (field, filter) ≠ (classIdAttribute, classFilter map options) := fun heq => hne (Prod.mk.inj heq).1
    rw [or_iff_right hclass, and_iff_left hne]

end Built
end Request
end SearchClient
