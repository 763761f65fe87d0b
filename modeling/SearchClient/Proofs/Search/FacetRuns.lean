import SearchClient.Proofs.FirstOccurrence
import SearchClient.Proofs.Search.Execution
import SearchClient.Proofs.Search.FacetCache
import SearchClient.Proofs.Search.Inquiry

/-! What runs of facet counts ask for when they share a cache. A run asks for the fields that the cache does not have,
    each once, up to the first failure; the cache keeps what succeeds and is not changed otherwise. So no run asks for
    what an earlier one has got. -/

namespace SearchClient
variable {σ E α : Type}

/-! ### Entries of a cache -/

namespace FacetCache
variable {cache : FacetCache} {key : FacetKey}

theorem entries_insert (h : cache.get? key = none) (counts : FacetCounts) :
    (cache.insert key counts).entries = (key, counts) :: cache.entries := by
  rw [insert, List.filter_eq_self.mpr]
  rintro entry hentry
  refine bne_iff_ne.mpr ?_
  rintro rfl
  exact SortedMap.lookup_eq_none_iff.mp h (List.mem_map_of_mem hentry)

/-- The fields that are not in the cache for a query and a request, each once. -/
def uncounted (cache : FacetCache) (query : String) (base : Request) (fields : List String) : List String :=
  fields.eraseDups.filter fun field => (cache.get? ⟨query, base, field⟩).isNone

section Uncounted
variable {query : String} {base : Request} {fields : List String} {field : String}

theorem nodup_uncounted : (cache.uncounted query base fields).Nodup := (nodup_eraseDups _).filter _

theorem get?_of_mem_uncounted (h : field ∈ cache.uncounted query base fields) :
    cache.get? ⟨query, base, field⟩ = none :=
  Option.isNone_iff_eq_none.mp (List.mem_filter.mp h).2

theorem uncounted_cons_of_some {counts : FacetCounts} (h : cache.get? ⟨query, base, field⟩ = some counts) :
    cache.uncounted query base (field :: fields) = cache.uncounted query base fields := by
  unfold uncounted
  rw [List.eraseDups_cons, eraseDups_filter, List.filter_cons_of_neg (by simp [h]), List.filter_filter]
  refine List.filter_congr fun other _ => ?_
  by_cases hother : other = field
  · simp [hother, h]
  · simp [hother]

/-- A field that is not in the cache comes first, and not again. -/
theorem uncounted_cons_of_none (h : cache.get? ⟨query, base, field⟩ = none) (counts : FacetCounts)
    (fields : List String) :
    cache.uncounted query base (field :: fields) =
      field :: (cache.insert ⟨query, base, field⟩ counts).uncounted query base fields := by
  unfold uncounted
  rw [List.eraseDups_cons, eraseDups_filter, List.filter_cons_of_pos (by simp [h]), List.filter_filter]
  refine congrArg _ (List.filter_congr fun other _ => ?_)
  by_cases hother : other = field
  · simp [hother, get?_insert]
  · simp [hother, get?_insert, Ne.symm hother]

end Uncounted
end FacetCache

/-! ### Runs -/

/-- The settings with a transcript of the calls. -/
def FacetSettings.recorded (settings : FacetSettings σ E) : FacetSettings (σ × List Call) E where
  host := settings.host.recorded
  retry := settings.retry
  maxFacets := settings.maxFacets

/-- Fields whose values are to be counted with one request and one query. -/
structure FacetRun (σ E : Type) where
  settings : FacetSettings σ E
  base : Request
  query : String
  fields : List String

namespace FacetRun

def key (run : FacetRun σ E) (field : String) : FacetKey := ⟨run.query, run.base, field⟩

def request (run : FacetRun σ E) (field : String) : Request := run.base.forFacet field run.settings.maxFacets

/-- The counts that a reply comes to. -/
def countsOf (run : FacetRun σ E) (response : Response) : FacetCounts :=
  (FacetCounts.ofGroups response.groups).truncate run.settings.maxFacets

/-- Counting through the cache, with a transcript of the calls. -/
def act (run : FacetRun σ E) : Act (σ × List Call) (Dict FacetCounts) :=
  run.settings.recorded.countAll true run.base run.query .empty run.fields

/-- What computations for fields leave in a cache: the counts of those that succeed. -/
def stored (run : FacetRun σ E) (computations : List (String × Inquiry)) : List (FacetKey × FacetCounts) :=
  computations.filterMap fun c => c.2.reply.toOption.map fun response => (run.key c.1, run.countsOf response)

variable {run : FacetRun σ E}

theorem key_injective (run : FacetRun σ E) : run.key.Injective := fun _ _ h => (FacetKey.mk.inj h).2.2

/-! ### One run -/

/-- A count with its attempts follows the plan of its request. -/
theorem follows_count (settings : FacetSettings σ E) (base : Request) (query field : String)
    (world : World (σ × List Call)) :
    ∃ inquiry : Inquiry,
      Follows settings.host settings.retry query [base.forFacet field settings.maxFacets] [inquiry]
        (settings.recorded.count base query field) world ∧
      outcome (settings.recorded.count base query field) world = inquiry.reply.map fun response =>
        (FacetCounts.ofGroups response.groups).truncate settings.maxFacets := by
  obtain ⟨inquiry, hfollows, hreply⟩ := follows_run settings.host
    (base.forFacet field settings.maxFacets) query settings.retry "facet" world
  refine ⟨inquiry, ?_, ?_⟩
  · exact hfollows.bind_quiet fun response world' => ⟨⟨_, rfl⟩, rfl⟩
  · rw [← hreply]
    exact (settings.recorded.count_eq base query field world).1

/-- Counts that the cache does not have are asked for, and kept if the inquiry succeeds. -/
theorem follows_countCached (settings : FacetSettings σ E) {base : Request} {query field : String}
    {world : World (σ × List Call)} (h : world.cache.get? ⟨query, base, field⟩ = none) :
    let act := settings.recorded.countCached base query field
    ∃ inquiry : Inquiry,
      Follows settings.host settings.retry query [base.forFacet field settings.maxFacets] [inquiry] act world ∧
      ((∃ error, inquiry.reply = .error error ∧ outcome act world = .error error ∧
          (after act world).cache = world.cache) ∨
        ∃ response counts, inquiry.reply = .ok response ∧ outcome act world = .ok counts ∧
          counts = (FacetCounts.ofGroups response.groups).truncate settings.maxFacets ∧
          (after act world).cache = world.cache.insert ⟨query, base, field⟩ counts) := by
  obtain ⟨inquiry, hfollows, hcount⟩ := follows_count settings base query field world
  obtain ⟨houtcome, hcache⟩ := settings.recorded.countCached_of_none h
  have hact := settings.recorded.countCached_eq_of_none h
  refine ⟨inquiry, (hfollows.bind_quiet fun counts world' => ⟨⟨counts, rfl⟩, rfl⟩).congr hact rfl, ?_⟩
  rw [houtcome, hcache, hcount]
  cases inquiry.reply with
  | error error => exact .inl ⟨error, rfl, rfl, rfl⟩
  | ok response => exact .inr ⟨response, _, rfl, rfl, rfl, rfl⟩

/-- What a run does that is left with some fields: it asks for those that the cache does not have, up to the first
    failure, and keeps what succeeds. -/
structure Computes (run : FacetRun σ E) (computations : List (String × Inquiry)) (act : Act (σ × List Call) α)
    (world : World (σ × List Call)) : Prop where
  follows : Follows run.settings.host run.settings.retry run.query
    ((world.cache.uncounted run.query run.base run.fields).map run.request) (computations.map Prod.snd) act world
  fields : computations.map Prod.fst <+: world.cache.uncounted run.query run.base run.fields
  entries : (after act world).cache.entries = (run.stored computations).reverse ++ world.cache.entries

section Step
variable {settings : FacetSettings σ E} {base : Request} {query field : String} {fields : List String}
  {next : FacetCounts → Act (σ × List Call) α} {world : World (σ × List Call)}

/-- For a field that the cache has nothing is asked. -/
theorem computes_of_some {counts : FacetCounts} (hget : world.cache.get? ⟨query, base, field⟩ = some counts)
    {computations : List (String × Inquiry)}
    (h : (⟨settings, base, query, fields⟩ : FacetRun σ E).Computes computations (next counts) world) :
    (⟨settings, base, query, field :: fields⟩ : FacetRun σ E).Computes computations
      (settings.recorded.countCached base query field >>= next) world := by
  obtain ⟨hfollows, hfields, hentries⟩ := h
  have hbind : (settings.recorded.countCached base query field >>= next) world = next counts world :=
    bind_of_ok (settings.recorded.countCached_eq_of_some hget)
  rw [← FacetCache.uncounted_cons_of_some hget] at hfollows hfields
  refine ⟨hfollows.congr hbind rfl, hfields, ?_⟩
  rw [after, hbind]
  exact hentries

/-- Another field is asked for, and if that succeeds, the later fields find it in the cache. -/
theorem computes_of_none (hget : world.cache.get? ⟨query, base, field⟩ = none)
    (hnext : ∀ counts world', ∃ computations,
      (⟨settings, base, query, fields⟩ : FacetRun σ E).Computes computations (next counts) world') :
    ∃ computations, (⟨settings, base, query, field :: fields⟩ : FacetRun σ E).Computes computations
      (settings.recorded.countCached base query field >>= next) world := by
  obtain ⟨inquiry, hinquiry, hends⟩ := follows_countCached settings hget
  rcases hends with ⟨error, hreply, houtcome, hcache⟩ | ⟨response, counts, hreply, houtcome, hcounts, hcache⟩
  · have huncounted := FacetCache.uncounted_cons_of_none hget .empty fields
    refine ⟨[(field, inquiry)], ?_, ?_, ?_⟩
    · rw [huncounted]
      exact hinquiry.bind_of_error houtcome
    · rw [huncounted]
      exact ⟨_, rfl⟩
    · rw [after_bind_of_error houtcome, hcache, stored, List.filterMap_cons_none (by rw [hreply]; rfl)]
      rfl
  · obtain ⟨computations, hfollows, hfields, hentries⟩ :=
      hnext counts (after (settings.recorded.countCached base query field) world)
    have huncounted := FacetCache.uncounted_cons_of_none hget counts fields
    rw [← hcache] at huncounted
    refine ⟨(field, inquiry) :: computations, ?_, ?_, ?_⟩
    · rw [huncounted]
      exact hinquiry.bind_of_ok houtcome hfollows
    · rw [huncounted]
      exact List.cons_prefix_cons.mpr ⟨rfl, hfields⟩
    · rw [after_bind_of_ok houtcome, hentries, hcache, FacetCache.entries_insert hget, hcounts, stored, stored,
        List.filterMap_cons_some (by rw [hreply]; rfl), List.reverse_cons, List.append_assoc]
      rfl

end Step

theorem computes_countAll (settings : FacetSettings σ E) (base : Request) (query : String) :
    ∀ (fields : List String) (counted : Dict FacetCounts) (world : World (σ × List Call)),
      ∃ computations, (⟨settings, base, query, fields⟩ : FacetRun σ E).Computes computations
        (settings.recorded.countAll true base query counted fields) world
  | [], counted, world => ⟨[], .of_ok rfl rfl, List.prefix_refl _, rfl⟩
  | field :: fields, counted, world => by
    -- Whatever the first field leaves in the cache, the later ones do what is planned with that.
    have hnext (counts : FacetCounts) :=
      computes_countAll settings base query fields (counted.insert field counts)
    rw [settings.recorded.countAll_cons, FacetSettings.countOne, if_pos rfl]
    cases hget : world.cache.get? ⟨query, base, field⟩ with
    | some counts =>
      obtain ⟨computations, hcomputes⟩ := hnext counts world
      exact ⟨computations, computes_of_some hget hcomputes⟩
    | none => exact computes_of_none hget hnext

section Stored
variable {computations : List (String × Inquiry)}

theorem mem_stored {entry : FacetKey × FacetCounts} : entry ∈ run.stored computations ↔
    ∃ field inquiry response, (field, inquiry) ∈ computations ∧ inquiry.reply = .ok response ∧
      entry = (run.key field, run.countsOf response) := by
  rw [stored, List.mem_filterMap]
  constructor
  · rintro ⟨⟨field, inquiry⟩, hmem, heq⟩
    obtain ⟨response, hresponse, rfl⟩ := Option.map_eq_some_iff.mp heq
    exact ⟨field, inquiry, response, hmem, toOption_eq_some_iff.mp hresponse, rfl⟩
  · rintro ⟨field, inquiry, response, hmem, hreply, rfl⟩
    exact ⟨(field, inquiry), hmem, Option.map_eq_some_iff.mpr ⟨response, toOption_eq_some_iff.mpr hreply, rfl⟩⟩

theorem map_fst_stored_sublist (run : FacetRun σ E) :
    ∀ computations : List (String × Inquiry),
      ((run.stored computations).map Prod.fst).Sublist ((computations.map Prod.fst).map run.key)
  | [] => .slnil
  | (field, inquiry) :: computations => by
    have ih := map_fst_stored_sublist run computations
    cases hreply : inquiry.reply with
    | error error =>
      rw [stored, List.filterMap_cons_none (by rw [hreply]; rfl)]
      exact ih.cons _
    | ok response =>
      rw [stored, List.filterMap_cons_some (by rw [hreply]; rfl)]
      exact ih.cons_cons _

end Stored

namespace Computes
variable {computations : List (String × Inquiry)} {act : Act (σ × List Call) α} {world : World (σ × List Call)}

theorem nodup_fields (h : run.Computes computations act world) : (computations.map Prod.fst).Nodup :=
  FacetCache.nodup_uncounted.sublist h.fields.sublist

theorem nodup_stored (h : run.Computes computations act world) : ((run.stored computations).map Prod.fst).Nodup :=
  (h.nodup_fields.map run.key_injective).sublist (run.map_fst_stored_sublist computations)

theorem get?_of_mem (h : run.Computes computations act world) {c : String × Inquiry} (hc : c ∈ computations) :
    world.cache.get? (run.key c.1) = none :=
  FacetCache.get?_of_mem_uncounted (h.fields.subset (List.mem_map_of_mem hc))

theorem get?_of_mem_stored (h : run.Computes computations act world) {key : FacetKey}
    (hkey : key ∈ (run.stored computations).map Prod.fst) : world.cache.get? key = none := by
  obtain ⟨entry, hentry, rfl⟩ := List.mem_map.mp hkey
  obtain ⟨field, inquiry, response, hc, -, rfl⟩ := mem_stored.mp hentry
  exact h.get?_of_mem hc

theorem get?_after_of_notMem (h : run.Computes computations act world) {key : FacetKey}
    (hkey : key ∉ (run.stored computations).map Prod.fst) :
    (after act world).cache.get? key = world.cache.get? key := by
  rw [FacetCache.get?, h.entries, SortedMap.lookup_append, SortedMap.lookup_eq_none_iff.mpr, Option.none_or,
    FacetCache.get?]
  rwa [List.map_reverse, List.mem_reverse]

theorem get?_after_of_mem_stored (h : run.Computes computations act world) {key : FacetKey}
    (hkey : key ∈ (run.stored computations).map Prod.fst) : (after act world).cache.get? key ≠ none := by
  intro hnone
  refine SortedMap.lookup_eq_none_iff.mp hnone ?_
  rw [h.entries, List.map_append, List.map_reverse]
  exact List.mem_append_left _ (List.mem_reverse.mpr hkey)

/-- What was in the cache is there afterwards. -/
theorem kept (h : run.Computes computations act world) {key : FacetKey} {counts : FacetCounts}
    (hget : world.cache.get? key = some counts) : (after act world).cache.get? key = some counts := by
  rw [h.get?_after_of_notMem, hget]
  exact fun hkey => nomatch hget.symm.trans (h.get?_of_mem_stored hkey)

/-- A field is asked for once, so nothing else is kept for one that fails. -/
theorem failed (h : run.Computes computations act world) {c : String × Inquiry} {error : SearchError}
    (hc : c ∈ computations) (hreply : c.2.reply = .error error) :
    (after act world).cache.get? (run.key c.1) = none := by
  rw [h.get?_after_of_notMem, h.get?_of_mem hc]
  intro hkey
  obtain ⟨entry, hentry, hfst⟩ := List.mem_map.mp hkey
  obtain ⟨field, inquiry, response, hmem, hok, rfl⟩ := mem_stored.mp hentry
  obtain rfl : (field, inquiry) = c := List.inj_on_of_nodup_map h.nodup_fields hmem hc (run.key_injective hfst)
  exact nomatch hok.symm.trans hreply

end Computes

/-- What is returned for a field is what the cache has by then. -/
theorem get?_countAll (settings : FacetSettings σ E) (base : Request) (query name : String) {fields : List String}
    {counted facets : Dict FacetCounts} {world : World (σ × List Call)}
    (h : outcome (settings.recorded.countAll true base query counted fields) world = .ok facets) :
    facets.get? name =
      if name ∈ fields then
        (after (settings.recorded.countAll true base query counted fields) world).cache.get? ⟨query, base, name⟩
      else counted.get? name := by
  induction fields generalizing counted world with
  | nil =>
    obtain rfl := Except.ok.inj h
    simp
  | cons field fields ih =>
    rw [settings.recorded.countAll_cons, FacetSettings.countOne, if_pos rfl] at h ⊢
    cases hcount : outcome (settings.recorded.countCached base query field) world with
    | error error =>
      rw [outcome_bind_of_error hcount] at h
      cases h
    | ok counts =>
      rw [outcome_bind_of_ok hcount] at h
      rw [after_bind_of_ok hcount, ih h]
      by_cases hname : name ∈ fields
      · simp [hname]
      · by_cases hfield : field = name
        -- The counts that have been returned are in the cache, where the later fields leave them.
        · subst hfield
          obtain ⟨computations, hcomputes⟩ := computes_countAll settings base query fields
            (counted.insert field counts) (after (settings.recorded.countCached base query field) world)
          have hget := settings.recorded.get?_after_countCached base query field world ⟨query, base, field⟩
          rw [if_pos rfl, hcount] at hget
          rw [if_neg hname, SortedMap.get?_insert, if_pos rfl, if_pos (List.mem_cons_self ..), hcomputes.kept hget]
        · simp [hname, Ne.symm hfield, SortedMap.get?_insert, hfield]

/-! ### Runs through one cache -/

/-- What becomes of a run, with its computations. -/
structure Runs (run : FacetRun σ E) (computations : List (String × Inquiry)) (world : World (σ × List Call)) : Prop
    extends run.Computes computations run.act world where
  kept : ∀ key counts, world.cache.get? key = some counts → (after run.act world).cache.get? key = some counts
  failed : ∀ c ∈ computations, ∀ error, c.2.reply = .error error →
    (after run.act world).cache.get? (run.key c.1) = none
  returned : ∀ facets, outcome run.act world = .ok facets → ∀ field ∈ run.fields,
    facets.get? field = (after run.act world).cache.get? (run.key field)

theorem exists_runs (run : FacetRun σ E) (world : World (σ × List Call)) :
    ∃ computations, run.Runs computations world := by
  obtain ⟨computations, hcomputes⟩ := computes_countAll run.settings run.base run.query run.fields .empty world
  refine ⟨computations, hcomputes, fun key counts => hcomputes.kept, fun c hc error => hcomputes.failed hc, ?_⟩
  intro facets hok field hfield
  exact (get?_countAll run.settings run.base run.query field hok).trans (if_pos hfield)

/-- Runs one after another, each in the world that the one before has left behind. -/
inductive RunInTurn : World (σ × List Call) → List (FacetRun σ E × List (String × Inquiry)) → Prop
  | done (world : World (σ × List Call)) : RunInTurn world []
  | next {run : FacetRun σ E} {computations : List (String × Inquiry)} {world : World (σ × List Call)}
      {history : List (FacetRun σ E × List (String × Inquiry))} : run.Runs computations world →
      RunInTurn (after run.act world) history → RunInTurn world ((run, computations) :: history)

/-- The keys of the computations that succeed. -/
def answered (history : List (FacetRun σ E × List (String × Inquiry))) : List FacetKey :=
  history.flatMap fun h => (h.1.stored h.2).map Prod.fst

theorem exists_runInTurn : ∀ (runs : List (FacetRun σ E)) (world : World (σ × List Call)),
    ∃ history, history.map Prod.fst = runs ∧ RunInTurn world history
  | [], world => ⟨[], rfl, .done world⟩
  | run :: runs, world => by
    obtain ⟨computations, hrun⟩ := run.exists_runs world
    obtain ⟨history, rfl, hhistory⟩ := exists_runInTurn runs (after run.act world)
    exact ⟨(run, computations) :: history, rfl, .next hrun hhistory⟩

namespace RunInTurn
variable {world : World (σ × List Call)} {history : List (FacetRun σ E × List (String × Inquiry))}

theorem get?_of_mem_answered (h : RunInTurn world history) {key : FacetKey} (hkey : key ∈ answered history) :
    world.cache.get? key = none := by
  induction h with
  | done => cases hkey
  | @next run computations world history hrun _ ih =>
    rcases List.mem_append.mp hkey with hkey | hkey
    · exact hrun.get?_of_mem_stored hkey
    · refine Option.eq_none_iff_forall_ne_some.mpr fun counts hget => ?_
      exact nomatch (ih hkey).symm.trans (hrun.kept key counts hget)

theorem nodup_answered (h : RunInTurn world history) : (answered history).Nodup := by
  induction h with
  | done => exact .nil
  | @next run computations world history hrun hhistory ih =>
    refine List.nodup_append.mpr ⟨hrun.nodup_stored, ih, ?_⟩
    -- The counts of the first run are in the cache when the later runs begin.
    rintro key hkey _ hlater rfl
    exact hrun.get?_after_of_mem_stored hkey (hhistory.get?_of_mem_answered hlater)

end RunInTurn

/-- Whatever the daemon does, runs that share a cache succeed at most once for each key, and not for keys that the
    cache had before. -/
theorem answered_once (runs : List (FacetRun σ E)) (world : World (σ × List Call)) :
    ∃ history, history.map Prod.fst = runs ∧ RunInTurn world history ∧ (answered history).Nodup ∧
      ∀ key ∈ answered history, world.cache.get? key = none := by
  obtain ⟨history, hruns, hhistory⟩ := exists_runInTurn runs world
  exact ⟨history, hruns, hhistory, hhistory.nodup_answered, fun _ => hhistory.get?_of_mem_answered⟩

/-- A host whose daemon rejects the second query. -/
def rejectingSecond : Host Nat Unit :=
  { Host.replying fun _ _ => .ok {} with
    query := fun _ _ n => (if n = 1 then .error (.query "busy") else .ok { groups := [⟨"red", 10⟩] }, n + 1) }

/-- The rejected field is asked for again by a second run, and the other one is not. -/
theorem answered_once_rejectingSecond :
    let run : FacetRun Nat Unit := ⟨⟨rejectingSecond, ⟨0, 0⟩, 100⟩, {}, "dog", ["color", "size", "color"]⟩
    let world : World (Nat × List Call) := ⟨(0, []), {}, []⟩
    let first := after run.act world
    let second := after run.act first
    first.cache.entries.map Prod.fst = [run.key "color"] ∧
    second.cache.entries.map Prod.fst = [run.key "size", run.key "color"] ∧ second.host.2.length = 3 ∧
    ∃ history, history.map Prod.fst = [run, run] ∧ RunInTurn world history ∧ (answered history).Nodup ∧
      run.key "color" ∈ answered history ∧ world.cache.get? (run.key "color") = none := by
  intro run world first second
  have hfirst : first.cache.entries.map Prod.fst = [run.key "color"] := by decide +kernel
  obtain ⟨history, hruns, hhistory, hnodup, hfresh⟩ := answered_once [run, run] world
  have hmem : run.key "color" ∈ answered history := by
    cases hhistory with
    | done => cases hruns
    | @next run' computations _ history hrun _ =>
      obtain rfl : run' = run := (List.cons.inj hruns).1
      have hkey : run.key "color" ∈ first.cache.entries.map Prod.fst := hfirst ▸ List.mem_singleton_self _
      rw [hrun.entries, List.map_append, List.map_reverse] at hkey
      rcases List.mem_append.mp hkey with hkey | hkey
      · exact List.mem_append_left _ (List.mem_reverse.mp hkey)
      · cases hkey
  exact ⟨hfirst, by decide +kernel, by decide +kernel, history, hruns, hhistory, hnodup, hmem, hfresh _ hmem⟩

end FacetRun
end SearchClient
