import SearchClient.Proofs.Reported
import SearchClient.Proofs.SortedMap
import SearchClient.Request.Build

/-! What a built request asks for: its window, and which filters it has. -/

namespace SearchClient.Request

/-! ### Setting filters -/

theorem mem_filters_setFilter {request : Request} {field : String} {filter : Filter} {f : String × Filter} :
    f ∈ (request.setFilter field filter).filters ↔ f = (field, filter) ∨ f ∈ request.filters ∧ f.1 ≠ field := by
  simp [setFilter, or_comm]

/-- Filters of different attributes are all kept; they take the place of earlier filters of these attributes. -/
theorem mem_filters_foldl_setFilter {f : String × Filter} : ∀ {fs : List (String × Filter)} {request : Request},
    (fs.map Prod.fst).Nodup →
      (f ∈ (fs.foldl (fun r f => r.setFilter f.1 f.2) request).filters ↔
        f ∈ fs ∨ f ∈ request.filters ∧ f.1 ∉ fs.map Prod.fst)
  | [], request, _ => by simp
  | e :: fs, request, h => by
    obtain ⟨hnot, hnodup⟩ := List.nodup_cons.mp h
    rw [List.foldl_cons, mem_filters_foldl_setFilter hnodup, mem_filters_setFilter, List.mem_cons,
      List.map_cons, List.mem_cons]
    -- The filter that is set first stays, since no later one is on its attribute.
    have hfirst : f = e → f.1 ∉ fs.map Prod.fst := fun heq => heq ▸ hnot
    grind

/-! ### Class restrictions -/

theorem mem_classIdsFor {map : ClassMap} {names : List String} {id : UInt32} :
    id ∈ (classIdsFor map names).value ↔ ∃ name ∈ names, map.idOf? name = some id := by
  rw [classIdsFor, Reported.mem_value_filterMap]
  refine exists_congr fun name => and_congr_right fun _ => ?_
  unfold classIdFor
  cases map.idOf? name <;> simp

/-- The filter that the class names of options ask for. -/
def classFilter (map : ClassMap) (options : SearchOptions) : Filter :=
  .anyOf ((classIdsFor map options.classNames).value.map classValue)

/-! ### Built requests -/

section Built
variable {settings : DaemonSettings} {map : ClassMap} {options : SearchOptions} {built : Reported Request}

/-- The request with the filters of options, before it is restricted to classes. -/
def filtered (settings : DaemonSettings) (options : SearchOptions) (mode : SortMode) : Request :=
  options.filters.toList.foldl (fun r f => r.setFilter f.1 f.2)
    (base settings options mode (weightsFor settings options).value)

theorem value_build (h : build settings map options = .ok built) : ∃ mode,
    built.value = if options.classNames.isEmpty then filtered settings options mode
      else (filtered settings options mode).setFilter classIdAttribute (classFilter map options) := by
  unfold build at h
  cases hmode : SortMode.ofName? options.sortMode with
  | error error =>
    rw [hmode] at h
    cases h
  | ok mode =>
    rw [hmode] at h
    obtain rfl := Except.ok.inj h
    refine ⟨mode, ?_⟩
    cases options.classNames.isEmpty <;> rfl

/-- Only an unknown sort mode keeps a request from being built. -/
theorem exists_build (settings : DaemonSettings) (map : ClassMap) {mode : SortMode}
    (h : SortMode.ofName? options.sortMode = .ok mode) : ∃ built, build settings map options = .ok built := by
  unfold build
  rw [h]
  exact ⟨_, rfl⟩

def window (request : Request) : Nat × Nat × Nat := (request.offset, request.limit, request.maxMatches)

theorem window_foldl_setFilter (fs : List (String × Filter)) :
    ∀ request : Request, (fs.foldl (fun r f => r.setFilter f.1 f.2) request).window = request.window := by
  induction fs with
  | nil => exact fun _ => rfl
  | cons f fs ih => exact fun request => ih (request.setFilter f.1 f.2)

theorem window_build (h : build settings map options = .ok built) : built.value.window =
    (pageOffset options.page options.perPage, min options.perPage settings.maxMatches, settings.maxMatches) := by
  obtain ⟨mode, hvalue⟩ := value_build h
  have hfiltered : (filtered settings options mode).window =
      (pageOffset options.page options.perPage, min options.perPage settings.maxMatches, settings.maxMatches) :=
    window_foldl_setFilter _ _
  rw [hvalue]
  split
  · exact hfiltered
  · exact hfiltered

theorem offset_build (h : build settings map options = .ok built) :
    built.value.offset = pageOffset options.page options.perPage := congrArg (·.1) (window_build h)

theorem limit_build (h : build settings map options = .ok built) :
    built.value.limit = min options.perPage settings.maxMatches := congrArg (·.2.1) (window_build h)

theorem maxMatches_build (h : build settings map options = .ok built) :
    built.value.maxMatches = settings.maxMatches := congrArg (·.2.2) (window_build h)

theorem mem_filters_filtered {mode : SortMode} {f : String × Filter} :
    f ∈ (filtered settings options mode).filters ↔ options.filters.get? f.1 = some f.2 := by
  have hbase (weights : Dict Double) : (base settings options mode weights).filters = [] := rfl
  rw [filtered, SortedMap.toList, mem_filters_foldl_setFilter (SortedMap.nodup_keys _), hbase,
    SortedMap.get?_eq_some_iff]
  simp

/-- The filters of a built request are those of the options, except that class names ask for a filter on the
    class id in place of one that the options may have. -/
theorem mem_filters_build (h : build settings map options = .ok built) {f : String × Filter} :
    f ∈ built.value.filters ↔
      if options.classNames = [] then options.filters.get? f.1 = some f.2
      else f = (classIdAttribute, classFilter map options) ∨
        options.filters.get? f.1 = some f.2 ∧ f.1 ≠ classIdAttribute := by
  obtain ⟨mode, hvalue⟩ := value_build h
  rw [hvalue]
  by_cases hnames : options.classNames = []
  · simp [hnames, mem_filters_filtered]
  · simp [hnames, mem_filters_setFilter, mem_filters_filtered]

end Built
end SearchClient.Request
