import SearchClient.Proofs.FirstOccurrence
import SearchClient.Proofs.Search.Execution

/-! How references become hits. Each entity type is looked up once, with all its keys, and the records that come back
    are put at the places of their references. Nothing is lost or doubled on the way through the batches, and a look-up
    that fails is the last one. -/

namespace SearchClient
variable {σ E : Type}

/-! ### Batches -/

/-- The keys of the references to an entity type. -/
def keysOf (refs : List EntityRef) (className : String) : List Nat :=
  (refs.filter fun ref => ref.className = className).map (·.primaryKey)

theorem addToBatch_of_not_mem {ref : EntityRef} {keys : String → List Nat} :
    ∀ {names : List String}, ref.className ∉ names →
      addToBatch ref (names.map fun name => (name, keys name)) =
        (names.map fun name => (name, keys name)) ++ [(ref.className, [ref.primaryKey])]
  | [], _ => rfl
  | name :: names, h => by
    rw [List.mem_cons, not_or] at h
    rw [List.map_cons, addToBatch, if_neg (Ne.symm h.1), addToBatch_of_not_mem h.2, List.cons_append]

theorem addToBatch_of_mem {ref : EntityRef} {keys keys' : String → List Nat}
    (hown : keys' ref.className = keys ref.className ++ [ref.primaryKey])
    (hother : ∀ name ≠ ref.className, keys' name = keys name) :
    ∀ {names : List String}, names.Nodup → ref.className ∈ names →
      addToBatch ref (names.map fun name => (name, keys name)) = names.map fun name => (name, keys' name)
  | name :: names, hnodup, hmem => by
    obtain ⟨hnot, hnodup⟩ := List.nodup_cons.mp hnodup
    rw [List.map_cons, List.map_cons, addToBatch]
    by_cases h : name = ref.className
    · subst h
      have hrest : ∀ name' ∈ names, (name', keys name') = (name', keys' name') := fun name' hname' => by
        rw [hother name' fun heq => hnot (heq ▸ hname')]
      rw [if_pos rfl, hown, List.map_congr_left hrest]
    · have hmem := (List.mem_cons.mp hmem).resolve_left (Ne.symm h)
      rw [if_neg h, addToBatch_of_mem hown hother hnodup hmem, hother name h]

/-- There is one batch for each entity type, in the order of their first references. -/
theorem batches_eq (refs : List EntityRef) :
    batches refs = (refs.map (·.className)).eraseDups.map fun name => (name, keysOf refs name) := by
  induction refs using List.reverseRecOn with
  | nil => rfl
  | append_singleton refs ref ih =>
    have hkeys (name : String) : keysOf (refs ++ [ref]) name =
        keysOf refs name ++ if ref.className = name then [ref.primaryKey] else [] := by
      unfold keysOf
      by_cases h : ref.className = name <;> simp [List.filter_append, h]
    have hstep : batches (refs ++ [ref]) = addToBatch ref (batches refs) := by
      simp [batches, List.foldl_append]
    rw [hstep, ih, List.map_append, List.map_singleton, eraseDups_append_singleton]
    split
    · next hmem =>
      refine addToBatch_of_mem ?_ (fun name hne => ?_) (nodup_eraseDups _) (List.mem_eraseDups.mpr hmem)
      · rw [hkeys, if_pos rfl]
      · rw [hkeys, if_neg (Ne.symm hne), List.append_nil]
    · next hmem =>
      have hnone : keysOf refs ref.className = [] := by
        simpa [keysOf, List.filter_eq_nil_iff] using hmem
      have hold : ∀ name ∈ (refs.map (·.className)).eraseDups,
          (name, keysOf refs name) = (name, keysOf (refs ++ [ref]) name) := fun name hname => by
        have hne : ref.className ≠ name := by
          rintro rfl
          exact hmem (List.mem_eraseDups.mp hname)
        rw [hkeys, if_neg hne, List.append_nil]
      rw [addToBatch_of_not_mem (mt List.mem_eraseDups.mp hmem), List.map_append, List.map_singleton, hkeys,
        hnone, if_pos rfl, List.nil_append, List.map_congr_left hold]

/-- What belongs to each entity type makes up all references. -/
theorem perm_flatMap_filter : ∀ {names : List String} {refs : List EntityRef}, names.Nodup →
    (∀ ref ∈ refs, ref.className ∈ names) →
      (names.flatMap fun name => refs.filter fun ref => ref.className = name).Perm refs
  | [], refs, _, hcovered => by
    have hnone : refs = [] := List.eq_nil_iff_forall_not_mem.mpr fun ref href => nomatch hcovered ref href
    rw [hnone, List.flatMap_nil]
  | name :: names, refs, hnodup, hcovered => by
    obtain ⟨hnot, hnodup⟩ := List.nodup_cons.mp hnodup
    let others := refs.filter fun ref => !decide (ref.className = name)
    have hcovered' : ∀ ref ∈ others, ref.className ∈ names := fun ref href => by
      obtain ⟨href, hne⟩ := List.mem_filter.mp href
      exact (List.mem_cons.mp (hcovered ref href)).resolve_left (by simpa using hne)
    have hothers : ∀ name' ∈ names, (refs.filter fun ref => ref.className = name') =
        others.filter fun ref => ref.className = name' := fun name' hname' => by
      rw [List.filter_filter]
      refine List.filter_congr fun ref _ => ?_
      have hne : name' ≠ name := fun heq => hnot (heq ▸ hname')
      by_cases h : ref.className = name' <;> simp [h, hne]
    rw [List.flatMap_cons, List.flatMap_congr hothers]
    exact ((perm_flatMap_filter hnodup hcovered').append_left _).trans (List.filter_append_perm _ refs)

/-! ### Look-ups -/

/-- What a host finds under keys, in its cache if it has one. -/
def Host.find (host : Host σ E) (className : String) (keys : List Nat) (s : σ) : Lookup E × σ :=
  match host.resolveCached className keys s with
  | (some found, s) => (found, s)
  | (none, s) => host.resolve className keys s

def checkLookup (className : String) (keys : List Nat) : Lookup E → Except SearchError (List (Option E))
  | .error reason => .error (.resolve className reason)
  | .ok records =>
    if records.length = keys.length then .ok records
    else .error (.recordCount className records.length keys.length)

theorem Host.lookup_eq (host : Host σ E) (className : String) (keys : List Nat) :
    host.lookup className keys = Act.onHost fun s =>
      (checkLookup className keys (host.find className keys s).1, (host.find className keys s).2) := by
  unfold Host.lookup
  refine congrArg Act.onHost (funext fun s => ?_)
  change (match (host.find className keys s).1 with
    | .error reason => _
    | .ok records => _) = _
  cases (host.find className keys s).1 with
  | error reason => rfl
  | ok records =>
    unfold checkLookup
    dsimp only
    split <;> rfl

theorem Host.find_recorded (host : Host σ E) (className : String) (keys : List Nat) (s : σ × List Call) :
    host.recorded.find className keys s =
      ((host.find className keys s.1).1, (host.find className keys s.1).2,
        s.2 ++ [.resolve className keys (host.resolveCached className keys s.1).1.isSome]) := by
  rcases hcached : host.resolveCached className keys s.1 with ⟨_ | found, state⟩ <;>
    simp [Host.find, Host.recorded, hcached]

/-- Batches that are looked up one after another, with one slot for each key. A call shows whether the cache of the
    host has answered. -/
inductive Host.Finds (host : Host σ E) :
    σ → List (String × List Nat) → List Call → List (EntityRef × Option E) → σ → Prop
  | nil {s : σ} : host.Finds s [] [] [] s
  | cons {s s' s'' : σ} {className : String} {keys : List Nat} {rest : List (String × List Nat)} {calls : List Call}
      {records : List (Option E)} {slots : List (EntityRef × Option E)} :
      host.find className keys s = (.ok records, s') → records.length = keys.length →
      host.Finds s' rest calls slots s'' →
      host.Finds s ((className, keys) :: rest)
        (.resolve className keys (host.resolveCached className keys s).1.isSome :: calls)
        ((keys.map (EntityRef.mk className)).zip records ++ slots) s''

/-- A look-up that fails, or that gives another number of records than keys. -/
inductive Host.Misses (host : Host σ E) (className : String) (keys : List Nat) (s : σ) : SearchError → Prop
  | failed {reason : String} : (host.find className keys s).1 = .error reason →
      host.Misses className keys s (.resolve className reason)
  | miscounted {records : List (Option E)} : (host.find className keys s).1 = .ok records →
      records.length ≠ keys.length → host.Misses className keys s (.resolve className
        (toString records.length ++ " records returned for " ++ toString keys.length ++ " keys"))

/-- The records in the slots of references, one after another. -/
def recordsOf (slots : List (EntityRef × Option E)) : List (EntityRef × E) :=
  slots.filterMap fun slot => slot.2.map (slot.1, ·)

theorem addFound_eq (className : String) (keys : List Nat) (records : List (Option E))
    (found : List (EntityRef × E)) : addFound className keys records found =
      (recordsOf ((keys.map (EntityRef.mk className)).zip records)).reverse ++ found := by
  unfold addFound recordsOf
  rw [List.zip_map_left, List.filterMap_map]
  induction keys.zip records generalizing found with
  | nil => rfl
  | cons slot slots ih =>
    obtain ⟨key, record⟩ := slot
    rw [List.foldl_cons, ih, List.filterMap_cons]
    cases record <;> simp

theorem Host.lookup_recorded (host : Host σ E) (className : String) (keys : List Nat)
    (world : World (σ × List Call)) : host.recorded.lookup className keys world =
      (checkLookup className keys (host.find className keys world.host.1).1,
        { world with
          host := ((host.find className keys world.host.1).2, world.host.2 ++
            [.resolve className keys (host.resolveCached className keys world.host.1).1.isSome]) }) := by
  rw [Host.lookup_eq, Act.onHost, Host.find_recorded]

/-- A look-up gives as many records as keys, or it is missed. -/
theorem Host.checkLookup_cases (host : Host σ E) (className : String) (keys : List Nat) (s : σ) :
    (∃ records, (host.find className keys s).1 = .ok records ∧ records.length = keys.length ∧
      checkLookup className keys (host.find className keys s).1 = .ok records) ∨
    ∃ error, host.Misses className keys s error ∧
      checkLookup className keys (host.find className keys s).1 = .error error := by
  cases hfound : (host.find className keys s).1 with
  | error reason => exact .inr ⟨_, .failed hfound, rfl⟩
  | ok records =>
    by_cases hlength : records.length = keys.length
    · exact .inl ⟨records, rfl, hlength, if_pos hlength⟩
    · exact .inr ⟨_, .miscounted hfound hlength, if_neg hlength⟩

/-- How looking up batches ends: with the slots of all of them, or with the first look-up that is missed. -/
inductive Host.LooksUp (host : Host σ E) (s : σ) (batches : List (String × List Nat)) :
    List Call → σ → Except SearchError (List (EntityRef × Option E)) → Prop
  | found {calls : List Call} {slots : List (EntityRef × Option E)} {s' : σ} :
      host.Finds s batches calls slots s' → LooksUp host s batches calls s' (.ok slots)
  | missed {done rest : List (String × List Nat)} {className : String} {keys : List Nat} {calls : List Call}
      {slots : List (EntityRef × Option E)} {s' : σ} {error : SearchError} :
      batches = done ++ (className, keys) :: rest → host.Finds s done calls slots s' →
      host.Misses className keys s' error →
      LooksUp host s batches
        (calls ++ [.resolve className keys (host.resolveCached className keys s').1.isSome])
        (host.find className keys s').2 (.error error)

theorem Host.LooksUp.cons {host : Host σ E} {s s' s'' : σ} {className : String} {keys : List Nat}
    {rest : List (String × List Nat)} {calls : List Call} {records : List (Option E)}
    {ended : Except SearchError (List (EntityRef × Option E))}
    (hfind : host.find className keys s = (.ok records, s')) (hlength : records.length = keys.length)
    (h : host.LooksUp s' rest calls s'' ended) : host.LooksUp s ((className, keys) :: rest)
      (.resolve className keys (host.resolveCached className keys s).1.isSome :: calls) s''
      (ended.map ((keys.map (EntityRef.mk className)).zip records ++ ·)) := by
  cases h with
  | found hfinds => exact .found (.cons hfind hlength hfinds)
  | missed hbatches hfinds hmisses =>
    rw [hbatches]
    exact .missed (List.cons_append ..).symm (.cons hfind hlength hfinds) hmisses

theorem lookupAll_cases (host : Host σ E) : ∀ (batches : List (String × List Nat)) (found : List (EntityRef × E))
    (world : World (σ × List Call)), ∃ calls s' ended, host.LooksUp world.host.1 batches calls s' ended ∧
      lookupAll host.recorded found batches world =
        (ended.map fun slots => (recordsOf slots).reverse ++ found,
          { world with host := (s', world.host.2 ++ calls) })
  | [], found, world => ⟨[], world.host.1, .ok [], .found .nil, by rw [List.append_nil]; rfl⟩
  | (className, keys) :: rest, found, world => by
    have hlookup := host.lookup_recorded className keys world
    rcases host.checkLookup_cases className keys world.host.1 with
      ⟨records, hfound, hlength, hcheck⟩ | ⟨error, hmisses, hcheck⟩
    · rw [hcheck] at hlookup
      obtain ⟨calls, s', ended, hrest, hlookups⟩ := lookupAll_cases host rest
        (addFound className keys records found) (after (host.recorded.lookup className keys) world)
      rw [after, hlookup] at hrest hlookups
      refine ⟨_, s', _, hrest.cons (Prod.ext hfound rfl) hlength, ?_⟩
      rw [lookupAll, bind_of_ok hlookup, hlookups, addFound_eq]
      cases ended with
      | error error => simp [Except.map]
      | ok slots => simp [Except.map, recordsOf, List.filterMap_append]
    · rw [hcheck] at hlookup
      exact ⟨_, _, .error error, .missed (List.nil_append _).symm .nil hmisses, bind_of_error hlookup⟩

theorem Host.Finds.map_fst {host : Host σ E} {s s' : σ} {batches : List (String × List Nat)} {calls : List Call}
    {slots : List (EntityRef × Option E)} (h : host.Finds s batches calls slots s') :
    slots.map Prod.fst = batches.flatMap fun batch => batch.2.map (EntityRef.mk batch.1) := by
  induction h with
  | nil => rfl
  | cons _ hlength _ ih =>
    rw [List.map_append, List.flatMap_cons, ih, List.map_fst_zip]
    rw [List.length_map]
    exact Nat.le_of_eq hlength.symm

/-- The slots of all batches are those of the references, one for each of their places. -/
theorem Host.Finds.perm {host : Host σ E} {refs : List EntityRef} {s s' : σ} {calls : List Call}
    {slots : List (EntityRef × Option E)} (h : host.Finds s (batches refs) calls slots s') :
    (slots.map Prod.fst).Perm refs := by
  have hown (name : String) : (keysOf refs name).map (EntityRef.mk name) =
      refs.filter fun ref => ref.className = name := by
    rw [keysOf, List.map_map]
    refine (List.map_congr_left fun ref href => ?_).trans (List.map_id _)
    obtain rfl : ref.className = name := by simpa using (List.mem_filter.mp href).2
    rfl
  rw [h.map_fst, batches_eq, List.flatMap_map]
  simp only [hown]
  exact perm_flatMap_filter (nodup_eraseDups _) fun ref href =>
    List.mem_eraseDups.mpr (List.mem_map_of_mem href)

/-! ### Hits -/

/-- There is a hit for each reference that has been found, at the first place of the reference. -/
theorem collectHits_eq : ∀ (refs : List EntityRef) (found : List (EntityRef × E)),
    (collectHits refs found).map (·.ref) = refs.eraseDups.filter (fun ref => (SortedMap.lookup ref found).isSome) ∧
      ∀ hit ∈ collectHits refs found, SortedMap.lookup hit.ref found = some hit.entity
  | [], _ => ⟨rfl, fun _ h => nomatch h⟩
  | ref :: refs, found => by
    unfold collectHits
    split
    · next entity hfound =>
      obtain ⟨hrefs, hentities⟩ := collectHits_eq refs (found.filter fun f => f.1 != ref)
      refine ⟨?_, fun hit hhit => ?_⟩
      · -- The record is taken out of what has been found, so later places of the reference are passed over.
        rw [List.map_cons, hrefs, List.eraseDups_cons, List.filter_cons_of_pos (by simp [hfound]), eraseDups_filter,
          List.filter_filter]
        refine congrArg (ref :: ·) (List.filter_congr fun other _ => ?_)
        rw [SortedMap.lookup_filter_ne]
        by_cases h : ref = other
        · simp [h]
        · simp [h, Ne.symm h]
      · rcases List.mem_cons.mp hhit with rfl | hhit
        · exact hfound
        · have hentity := hentities hit hhit
          rw [SortedMap.lookup_filter_ne] at hentity
          split at hentity
          · cases hentity
          · exact hentity
    · next hfound =>
      obtain ⟨hrefs, hentities⟩ := collectHits_eq refs found
      refine ⟨?_, hentities⟩
      rw [hrefs, List.eraseDups_cons, List.filter_cons_of_neg (by simp [hfound]), eraseDups_filter, List.filter_filter]
      refine List.filter_congr fun other _ => ?_
      by_cases h : other = ref <;> simp [h, hfound]

/-- What becomes of references whose slots have been filled. -/
structure IsResolved (refs : List EntityRef) (slots : List (EntityRef × Option E)) (hits : List (Hit E)) : Prop where
  /-- Each reference has a slot for each of its places. -/
  places : (slots.map Prod.fst).Perm refs
  /-- Those with a record in some slot have a hit, in the order of their first places. -/
  order : hits.map (·.ref) = refs.eraseDups.filter fun ref => ref ∈ (recordsOf slots).map Prod.fst
  /-- A hit has the last record in the slots of its reference. -/
  entities : ∀ hit ∈ hits, IsLastBy Prod.fst (recordsOf slots) (hit.ref, hit.entity)
  excerpts : ∀ hit ∈ hits, hit.excerpts = .empty

theorem isResolved_collectHits {refs : List EntityRef} {slots : List (EntityRef × Option E)}
    (hplaces : (slots.map Prod.fst).Perm refs) :
    IsResolved refs slots (collectHits refs (recordsOf slots).reverse) := by
  obtain ⟨horder, hentities⟩ := collectHits_eq refs (recordsOf slots).reverse
  refine ⟨hplaces, horder.trans (List.filter_congr fun ref _ => ?_), fun hit hhit => ?_,
    (collectHits_sublist _ _).2⟩
  · rw [Bool.eq_iff_iff, SortedMap.isSome_lookup_iff, List.map_reverse, List.mem_reverse, decide_eq_true_iff]
  · exact SortedMap.lookup_reverse_eq_some_iff.mp (hentities hit hhit)

theorem IsResolved.order_of_nodup {refs : List EntityRef} {slots : List (EntityRef × Option E)} {hits : List (Hit E)}
    (h : IsResolved refs slots hits) (hrefs : refs.Nodup) :
    hits.map (·.ref) = refs.filter fun ref => ref ∈ (recordsOf slots).map Prod.fst := by
  rw [h.order, eraseDups_of_nodup hrefs]

/-- Each entity type is looked up once, in the order of the first references, with all keys of its references in their
    order, up to the first look-up that is missed; this is the failure of the whole. Otherwise each reference with a
    record has one hit, at its first place. -/
theorem resolveHits_batched (host : Host σ E) (refs : List EntityRef) (world : World (σ × List Call)) :
    let act := resolveHits host.recorded refs
    batches refs = (refs.map (·.className)).eraseDups.map (fun name => (name, keysOf refs name)) ∧
    ∃ calls s ended, host.LooksUp world.host.1 (batches refs) calls s ended ∧
      after act world = { world with host := (s, world.host.2 ++ calls) } ∧
      (∀ error, ended = .error error → outcome act world = .error error) ∧
      ∀ slots, ended = .ok slots → ∃ hits, outcome act world = .ok hits ∧ IsResolved refs slots hits ∧
        (refs.Nodup → hits.map (·.ref) = refs.filter fun ref => ref ∈ (recordsOf slots).map Prod.fst) := by
  intro act
  obtain ⟨calls, s, ended, hlooks, hlookups⟩ := lookupAll_cases host (batches refs) [] world
  obtain ⟨houtcome, hafter⟩ : outcome act world = _ ∧ after act world = _ := bind_pure_eq
  have hended : outcome (lookupAll host.recorded [] (batches refs)) world = _ := congrArg Prod.fst hlookups
  rw [hended] at houtcome
  refine ⟨batches_eq refs, calls, s, ended, hlooks, hafter.trans (congrArg Prod.snd hlookups), fun error herror => ?_,
    fun slots hslots => ?_⟩
  · rw [houtcome, herror, Except.map, Except.map]
  · subst hslots
    cases hlooks with
    | found hfinds =>
      have hresolved : IsResolved refs slots (collectHits refs (recordsOf slots).reverse) :=
        isResolved_collectHits hfinds.perm
      refine ⟨_, ?_, hresolved, hresolved.order_of_nodup⟩
      rw [houtcome, Except.map, Except.map, List.append_nil]

/-- A host with a cache of users, in which a record shows at which of the keys it has been found. There is no seller
    with the key 2. -/
def cachedUsers : Host Unit String where
  query _ _ s := (.ok {}, s)
  buildExcerpts call s := (.ok call.texts, s)
  resolveCached className keys s :=
    (if className = "User" then some (.ok (keys.mapIdx fun i _ => some (toString i))) else none, s)
  resolve _ keys s := (.ok (keys.map fun key => if key = 2 then none else some "seller"), s)
  field? _ _ := none

theorem resolveHits_batched_cachedUsers :
    let refs : List EntityRef := [⟨"Seller", 1⟩, ⟨"User", 5⟩, ⟨"Seller", 2⟩, ⟨"User", 5⟩]
    let act := resolveHits cachedUsers.recorded refs
    let world : World (Unit × List Call) := ⟨((), []), {}, []⟩
    (after act world).host.2 = [.resolve "Seller" [1, 2] false, .resolve "User" [5, 5] true] ∧
    ∃ hits slots, outcome act world = .ok hits ∧ IsResolved refs slots hits ∧
      hits.map (fun hit => (hit.ref, hit.entity)) = [(⟨"Seller", 1⟩, "seller"), (⟨"User", 5⟩, "1")] := by
  intro refs act world
  have hhits : (outcome act world).toOption.map (·.map fun hit => (hit.ref, hit.entity)) =
      some [(⟨"Seller", 1⟩, "seller"), (⟨"User", 5⟩, "1")] := by decide +kernel
  obtain ⟨-, calls, s, ended, -, -, hmissed, hresolved⟩ := resolveHits_batched cachedUsers refs world
  cases ended with
  | error error =>
    rw [hmissed error rfl] at hhits
    cases hhits
  | ok slots =>
    obtain ⟨hits, hok, hresolves, -⟩ := hresolved slots rfl
    rw [hok] at hhits
    exact ⟨by decide +kernel, hits, slots, hok, hresolves, Option.some.inj hhits⟩

end SearchClient
