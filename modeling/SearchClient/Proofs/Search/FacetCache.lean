import SearchClient.Proofs.Search.Action
import SearchClient.Proofs.Search.FacetCounts

/-! When a shared cache of facet counts goes unnoticed. Counts are kept under the query, the request and the field,
    but they also depend on the greatest number of values that is kept; searches that differ in it alone get each
    other's counts. -/

namespace SearchClient

theorem FacetCache.get?_insert (cache : FacetCache) (key key' : FacetKey) (counts : FacetCounts) :
    (cache.insert key counts).get? key' = if key = key' then some counts else cache.get? key' := by
  unfold FacetCache.get? FacetCache.insert
  rw [SortedMap.lookup, SortedMap.lookup_filter_ne]
  split <;> rfl

/-! ### One computation -/

namespace FacetSettings
variable {σ E : Type} {base : Request} {query field : String} {world : World σ}

/-- Counting ends as the query for the field does, and leaves the cache alone. -/
theorem count_eq_query (settings : FacetSettings σ E) (base : Request) (query field : String) (world : World σ) :
    (∃ s, outcome (settings.count base query field) world =
      (settings.host.query (base.forFacet field settings.maxFacets) query s).1.map fun response =>
        (FacetCounts.ofGroups response.groups).truncate settings.maxFacets) ∧
    (after (settings.count base query field) world).cache = world.cache := by
  obtain ⟨⟨s, hs⟩, hcache⟩ :=
    settings.retry.run_queryAct "facet" settings.host (base.forFacet field settings.maxFacets) query world
  obtain ⟨houtcome, hafter⟩ := settings.count_eq base query field world
  exact ⟨⟨s, houtcome.trans (congrArg _ hs)⟩, (congrArg World.cache hafter).trans hcache⟩

/-- Counts that are in the cache are given without a call. -/
theorem countCached_eq_of_some (settings : FacetSettings σ E) {counts : FacetCounts}
    (h : world.cache.get? ⟨query, base, field⟩ = some counts) :
    settings.countCached base query field world = (.ok counts, world) := by
  rw [countCached, get_bind, h]
  rfl

theorem countCached_of_some (settings : FacetSettings σ E) {counts : FacetCounts}
    (h : world.cache.get? ⟨query, base, field⟩ = some counts) :
    outcome (settings.countCached base query field) world = .ok counts ∧
      (after (settings.countCached base query field) world).cache = world.cache := by
  rw [outcome, after, settings.countCached_eq_of_some h]
  exact ⟨rfl, rfl⟩

theorem countCached_eq_of_none (settings : FacetSettings σ E) (h : world.cache.get? ⟨query, base, field⟩ = none) :
    settings.countCached base query field world = (do
      let counts ← settings.count base query field
      modify fun world => { world with cache := world.cache.insert ⟨query, base, field⟩ counts }
      return counts : Act σ FacetCounts) world := by
  rw [countCached, get_bind, h]

/-- Other counts are counted, and go into the cache if that succeeds. -/
theorem countCached_of_none (settings : FacetSettings σ E) (h : world.cache.get? ⟨query, base, field⟩ = none) :
    outcome (settings.countCached base query field) world = outcome (settings.count base query field) world ∧
      (after (settings.countCached base query field) world).cache =
        match outcome (settings.count base query field) world with
        | .ok counts => world.cache.insert ⟨query, base, field⟩ counts
        | .error _ => world.cache := by
  have hcache := (settings.count_eq_query base query field world).2
  rw [outcome, after, settings.countCached_eq_of_none h]
  cases hcount : outcome (settings.count base query field) world with
  | error error => exact ⟨outcome_bind_of_error hcount, (congrArg World.cache (after_bind_of_error hcount)).trans hcache⟩
  | ok counts =>
    refine ⟨outcome_bind_of_ok hcount, (congrArg World.cache (after_bind_of_ok hcount)).trans ?_⟩
    exact congrArg (FacetCache.insert · _ _) hcache

/-- A computation keeps what is in the cache, and adds its own outcome if it succeeds. -/
theorem get?_after_countCached (settings : FacetSettings σ E) (base : Request) (query field : String)
    (world : World σ) (key : FacetKey) :
    (after (settings.countCached base query field) world).cache.get? key =
      if ⟨query, base, field⟩ = key then (outcome (settings.countCached base query field) world).toOption
      else world.cache.get? key := by
  cases hget : world.cache.get? ⟨query, base, field⟩ with
  | some counts =>
    obtain ⟨houtcome, hcache⟩ := settings.countCached_of_some hget
    rw [houtcome, hcache]
    split
    · next hkey => exact hkey ▸ hget
    · rfl
  | none =>
    obtain ⟨houtcome, hcache⟩ := settings.countCached_of_none hget
    rw [houtcome, hcache]
    cases outcome (settings.count base query field) world with
    | error error =>
      dsimp only
      split
      · next hkey => exact hkey ▸ hget
      · rfl
    | ok counts => exact world.cache.get?_insert _ key counts

end FacetSettings

/-! ### Computations through one cache -/

structure FacetTask where
  retry : RetryPolicy
  maxFacets : Nat
  base : Request
  query : String
  field : String

namespace FacetTask
variable {σ E : Type}

/-- What the cache keeps the counts under. -/
def key (task : FacetTask) : FacetKey := ⟨task.query, task.base, task.field⟩

def settings (task : FacetTask) (host : Host σ E) : FacetSettings σ E := ⟨host, task.retry, task.maxFacets⟩

def count (task : FacetTask) (host : Host σ E) : Act σ FacetCounts :=
  (task.settings host).count task.base task.query task.field

def countCached (task : FacetTask) (host : Host σ E) : Act σ FacetCounts :=
  (task.settings host).countCached task.base task.query task.field

/-- The counts that a daemon with fixed replies gives rise to. -/
def expected (reply : Request → String → Except SearchError Response) (task : FacetTask) :
    Except SearchError FacetCounts :=
  (reply (task.base.forFacet task.field task.maxFacets) task.query).map fun response =>
    (FacetCounts.ofGroups response.groups).truncate task.maxFacets

/-- The outcomes of computations that are made one after another through one cache, each in the state that the
    host has by then. -/
def outcomes (host : Host σ E) : FacetCache → List (σ × FacetTask) → List (Except SearchError FacetCounts)
  | _, [] => []
  | cache, (s, task) :: rest =>
    outcome (task.countCached host) { host := s, cache } ::
      outcomes host (after (task.countCached host) { host := s, cache }).cache rest

theorem expected_congr {reply : Request → String → Except SearchError Response} {a b : FacetTask}
    (hkey : a.key = b.key) (hmax : a.maxFacets = b.maxFacets) : a.expected reply = b.expected reply := by
  obtain ⟨hquery, hbase, hfield⟩ := FacetKey.mk.inj hkey
  rw [expected, expected, hquery, hbase, hfield, hmax]

/-! ### One step -/

section Step
variable {host : Host σ E} {reply : Request → String → Except SearchError Response} {task : FacetTask}
  {world : World σ}

theorem outcome_count (hreply : host.Replies reply) : outcome (task.count host) world = task.expected reply := by
  obtain ⟨⟨s, hs⟩, -⟩ := (task.settings host).count_eq_query task.base task.query task.field world
  refine hs.trans (congrArg _ ?_)
  exact hreply _ _ _

/-- A step gives what is in the cache, and otherwise what is expected. -/
theorem outcome_countCached (hreply : host.Replies reply) : outcome (task.countCached host) world =
    match world.cache.get? task.key with
    | some counts => .ok counts
    | none => task.expected reply := by
  cases hget : world.cache.get? task.key with
  | some counts => exact ((task.settings host).countCached_of_some hget).1
  | none => exact ((task.settings host).countCached_of_none hget).1.trans (outcome_count hreply)

theorem get?_after_countCached (key : FacetKey) : (after (task.countCached host) world).cache.get? key =
    if task.key = key then (outcome (task.countCached host) world).toOption else world.cache.get? key :=
  (task.settings host).get?_after_countCached task.base task.query task.field world key

end Step

/-! ### All steps -/

section Steps
variable {host : Host σ E} {reply : Request → String → Except SearchError Response}

/-- Computations with the same key keep equally many values. -/
def SameMaxFacets (tasks : List (σ × FacetTask)) : Prop :=
  tasks.Pairwise fun a b => a.2.key = b.2.key → a.2.maxFacets = b.2.maxFacets

/-- If the cache only has what is expected of the computations, then each of them gives what is expected. -/
theorem outcomes_eq_expected (hreply : host.Replies reply) :
    ∀ {tasks : List (σ × FacetTask)} {cache : FacetCache}, SameMaxFacets tasks →
      (∀ t ∈ tasks, ∀ counts, cache.get? t.2.key = some counts → t.2.expected reply = .ok counts) →
      outcomes host cache tasks = tasks.map fun t => t.2.expected reply
  | [], _, _, _ => rfl
  | (s, task) :: rest, cache, hsame, hcache => by
    obtain ⟨hhead, hrest⟩ := List.pairwise_cons.mp hsame
    have houtcome : outcome (task.countCached host) { host := s, cache } = task.expected reply := by
      rw [outcome_countCached hreply]
      cases hget : cache.get? task.key with
      | none => rfl
      | some counts => exact (hcache _ (List.mem_cons_self ..) counts hget).symm
    rw [outcomes, List.map_cons, houtcome, outcomes_eq_expected hreply hrest]
    -- The step may have added its own outcome, which later computations with its key are expected to give too.
    intro t ht counts hget
    rw [get?_after_countCached] at hget
    split at hget
    · next hkey =>
      rw [← expected_congr hkey (hhead t ht hkey), ← houtcome]
      exact toOption_eq_some_iff.mp hget
    · exact hcache t (List.mem_cons_of_mem _ ht) counts hget

/-- Counts that are in the cache are what every later computation with their key gives. -/
theorem outcome_of_cached (hreply : host.Replies reply) {key : FacetKey} {counts : FacetCounts}
    {f : σ × FacetTask → Except SearchError FacetCounts} :
    ∀ {tasks : List (σ × FacetTask)} {cache : FacetCache}, cache.get? key = some counts →
      outcomes host cache tasks = tasks.map f → ∀ t ∈ tasks, t.2.key = key → f t = .ok counts
  | [], _, _, _, _, ht, _ => nomatch ht
  | (s, task) :: rest, cache, hget, h, t, ht, hkey => by
    have houtcome : task.key = key → outcome (task.countCached host) { host := s, cache } = .ok counts := by
      rintro rfl
      rw [outcome_countCached hreply, hget]
    rw [outcomes, List.map_cons] at h
    obtain ⟨hhead, hrest⟩ := List.cons.inj h
    rcases List.mem_cons.mp ht with rfl | ht
    · exact hhead ▸ houtcome hkey
    · refine outcome_of_cached hreply ?_ hrest t ht hkey
      rw [get?_after_countCached]
      split
      · next htask => exact congrArg Except.toOption (houtcome htask)
      · exact hget

/-- If each computation gives what is expected of it, then the same is expected of those with the same key. -/
theorem expected_of_outcomes (hreply : host.Replies reply) :
    ∀ {tasks : List (σ × FacetTask)} {cache : FacetCache},
      outcomes host cache tasks = tasks.map (fun t => t.2.expected reply) →
      tasks.Pairwise fun a b => a.2.key = b.2.key → ∀ counts, a.2.expected reply = .ok counts →
        b.2.expected reply = .ok counts
  | [], _, _ => .nil
  | (s, task) :: rest, cache, h => by
    rw [outcomes, List.map_cons] at h
    obtain ⟨hhead, hrest⟩ := List.cons.inj h
    refine List.pairwise_cons.mpr ⟨fun t ht hkey counts hcounts => ?_, expected_of_outcomes hreply hrest⟩
    -- The first computation has left its counts in the cache, where the later one finds them.
    refine outcome_of_cached hreply ?_ hrest t ht hkey.symm
    rw [get?_after_countCached, if_pos rfl, hhead]
    exact congrArg Except.toOption hcounts

end Steps

/-! ### Any daemon -/

/-- A reply with as many different values as wanted. -/
def manyGroups (n : Nat) : Response where
  groups := (List.range n).map fun i => ⟨.ofList (List.replicate i 'x'), 1⟩

theorem size_expected_manyGroups (n : Nat) (task : FacetTask) :
    ∃ counts, task.expected (fun _ _ => .ok (manyGroups n)) = .ok counts ∧ counts.size = min n task.maxFacets := by
  refine ⟨_, rfl, ?_⟩
  have hvalues : (FacetCounts.valuesOf (manyGroups n).groups).Nodup := by
    rw [FacetCounts.valuesOf, manyGroups, List.map_map]
    refine List.nodup_range.map fun i j hij => ?_
    have hlist : List.replicate i 'x' = List.replicate j 'x' := String.ofList_injective hij
    simpa using congrArg List.length hlist
  rw [FacetCounts.size_truncate, FacetCounts.size_ofGroups, hvalues.dedup]
  simp [FacetCounts.valuesOf, manyGroups]

/-- A cache that searches share goes unnoticed, whatever the daemon replies, exactly if those searches that ask
    for the same counts keep equally many values. -/
theorem outcomes_eq_count_iff (tasks : List (σ × FacetTask)) :
    (∀ (host : Host σ E) (reply : Request → String → Except SearchError Response), host.Replies reply →
      outcomes host {} tasks = tasks.map fun t => outcome (t.2.count host) { host := t.1 }) ↔
    SameMaxFacets tasks := by
  have hcount (host : Host σ E) (reply : Request → String → Except SearchError Response)
      (hreply : host.Replies reply) :
      (tasks.map fun t => outcome (t.2.count host) { host := t.1 }) = tasks.map fun t => t.2.expected reply :=
    List.map_congr_left fun t _ => outcome_count hreply
  constructor
  · intro h
    refine List.pairwise_iff_forall_sublist.mpr fun {a b} hsub hkey => ?_
    -- As many groups as either search keeps tell the two apart.
    obtain ⟨n, hn⟩ : ∃ n, n = max a.2.maxFacets b.2.maxFacets := ⟨_, rfl⟩
    have hreply := Host.replies_replying (σ := σ) (E := E) fun _ _ => .ok (manyGroups n)
    have hpairs := expected_of_outcomes hreply ((h _ _ hreply).trans (hcount _ _ hreply))
    have hab := List.pairwise_iff_forall_sublist.mp hpairs hsub hkey
    obtain ⟨countsA, ha, hsizeA⟩ := size_expected_manyGroups n a.2
    obtain ⟨countsB, hb, hsizeB⟩ := size_expected_manyGroups n b.2
    obtain rfl := Except.ok.inj ((hab countsA ha).symm.trans hb)
    omega
  · intro h host reply hreply
    rw [hcount host reply hreply]
    exact outcomes_eq_expected hreply h fun t _ counts hget => nomatch hget

/-! ### Searches that keep unequally many values -/

def redAndBlue : Host Unit Unit :=
  .replying fun _ _ => .ok { groups := [⟨"red", 10⟩, ⟨"blue", 5⟩] }

def dogColors (maxFacets : Nat) : FacetTask := ⟨⟨0, 0⟩, maxFacets, {}, "dog", "color"⟩

/-- A search that keeps one color gets both that an earlier search has kept. -/
theorem outcomes_dogColors :
    (outcomes redAndBlue {} [((), dogColors 2), ((), dogColors 1)]).map (·.toOption.map (·.size)) =
      [some 2, some 2] ∧
    (outcome ((dogColors 1).count redAndBlue) { host := () }).toOption.map (·.size) = some 1 := by
  have hreply : redAndBlue.Replies _ := Host.replies_replying _
  have hkey : (dogColors 2).key = (dogColors 1).key := rfl
  have hsize (max : Nat) : ((FacetCounts.ofGroups [⟨"red", 10⟩, ⟨"blue", 5⟩]).truncate max).size = min 2 max :=
    (FacetCounts.size_truncate _ max).trans (congrArg (min · max) (by decide +kernel))
  constructor
  · rw [outcomes, outcomes, outcomes, outcome_countCached hreply, outcome_countCached hreply,
      get?_after_countCached, if_pos hkey, outcome_countCached hreply]
    exact congrArg (fun size => [some size, some size]) (hsize 2)
  · rw [outcome_count hreply]
    exact congrArg some (hsize 1)

end FacetTask
end SearchClient
