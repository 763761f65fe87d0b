import SearchClient.Proofs.SortedMap
import SearchClient.Proofs.Search.Stage

/-! Which text an excerpt belongs to. The texts of all hits go to the daemon in one row, with a place for each hit
    and group, whether or not the record has a field of the group; so the excerpts, which come back in the same row,
    are found at the place of their hit and group. -/

namespace SearchClient
variable {σ E : Type}

/-! ### The text that is sent -/

/-- A control character other than the tab, the line feed and the carriage return. -/
def IsUnsafe (c : Char) : Prop :=
  (c.toNat < 0x20 ∨ 0x7F ≤ c.toNat ∧ c.toNat ≤ 0x9F) ∧ c ≠ '\t' ∧ c ≠ '\n' ∧ c ≠ '\r'

/-- What is sent for a character: a space for an unsafe one, and every other character itself. -/
inductive SentFor (c : Char) : Char → Prop
  | space : IsUnsafe c → SentFor c ' '
  | self : ¬IsUnsafe c → SentFor c c

theorem isUnsafeControl_iff {c : Char} : Query.isUnsafeControl c = true ↔ IsUnsafe c := by
  simp [Query.isUnsafeControl, Text.isControl, IsUnsafe, and_assoc]

theorem sentFor_sanitize (content : String) :
    List.Forall₂ SentFor content.toList (Query.sanitize content).toList := by
  rw [Query.sanitize, String.toList_ofList, Query.sanitizeText, List.forall₂_map_right_iff, List.forall₂_same]
  intro c _
  split
  · next h => exact .space (isUnsafeControl_iff.mp h)
  · next h => exact .self (mt isUnsafeControl_iff.mpr h)

/-! ### The field of a group -/

/-- A name is the first of a group that a record has, and `text` is its content. -/
def Host.Selects (host : Host σ E) (entity : E) (group : List String) (field text : String) : Prop :=
  ∃ before rest, group = before ++ field :: rest ∧ (∀ name ∈ before, host.field? entity name = none) ∧
    host.field? entity field = some text

/-- The text that is sent for a record and a group: the content of the selected field, character by character. -/
inductive Host.Sends (host : Host σ E) (entity : E) (group : List String) : String → Prop
  | content {field content text : String} : host.Selects entity group field content →
      List.Forall₂ SentFor content.toList text.toList → Sends host entity group text
  | missing : (∀ name ∈ group, host.field? entity name = none) → Sends host entity group ""

section Select
variable {host : Host σ E} {entity : E} {group : List String} {field text : String}

theorem selectField_eq_some_iff : selectField host entity group = some (field, text) ↔
    host.Selects entity group field text := by
  unfold selectField
  rw [List.findSome?_eq_some_iff]
  constructor
  · rintro ⟨before, name, rest, hgroup, hname, hbefore⟩
    obtain ⟨content, hcontent, heq⟩ := Option.map_eq_some_iff.mp hname
    cases heq
    exact ⟨before, rest, hgroup, fun other hother => by simpa using hbefore other hother, hcontent⟩
  · rintro ⟨before, rest, hgroup, hbefore, hcontent⟩
    refine ⟨before, field, rest, hgroup, by rw [hcontent, Option.map_some], fun other hother => ?_⟩
    rw [hbefore other hother, Option.map_none]

theorem map_fst_selectField_ne (h : ∀ text, ¬host.Selects entity group field text) :
    (selectField host entity group).map (·.1) ≠ some field := by
  intro hfield
  obtain ⟨⟨name, text⟩, hselect, rfl⟩ := Option.map_eq_some_iff.mp hfield
  exact h text (selectField_eq_some_iff.mp hselect)

theorem sends_excerptText : host.Sends entity group (excerptText (selectField host entity group)) := by
  cases hselect : selectField host entity group with
  | some selected => exact .content (selectField_eq_some_iff.mp hselect) (sentFor_sanitize selected.2)
  | none =>
    refine .missing fun name hname => ?_
    have := List.findSome?_eq_none_iff.mp hselect name hname
    simpa using this

end Select

/-! ### Rows -/

section Rows
variable {α β : Type} {f : α → List β} {n : Nat}

theorem length_flatMap_of_forall {l : List α} (h : ∀ a ∈ l, (f a).length = n) :
    (l.flatMap f).length = l.length * n := by
  induction l with
  | nil => simp
  | cons a l ih =>
    obtain ⟨ha, hl⟩ := List.forall_mem_cons.mp h
    rw [List.flatMap_cons, List.length_append, ha, ih hl, List.length_cons, Nat.succ_mul, Nat.add_comm]

/-- Rows of one length stand at the multiples of the length. -/
theorem getElem?_flatMap_of_forall {l : List α} (h : ∀ a ∈ l, (f a).length = n) {i g : Nat} {a : α}
    (ha : l[i]? = some a) (hg : g < n) : (l.flatMap f)[i * n + g]? = (f a)[g]? := by
  induction l generalizing i with
  | nil => cases ha
  | cons b l ih =>
    obtain ⟨hb, hl⟩ := List.forall_mem_cons.mp h
    rw [List.flatMap_cons]
    cases i with
    | zero =>
      obtain rfl := Option.some.inj ha
      rw [Nat.zero_mul, Nat.zero_add, List.getElem?_append_left (by omega)]
    | succ i =>
      rw [List.getElem?_append_right (by rw [Nat.succ_mul]; omega), ← ih hl ha, hb, Nat.succ_mul]
      congr 1
      omega

end Rows

/-! ### Groups of a size -/

section Chunks
variable {α : Type} {size : Nat} {items : List α} {filled : List (List α) × List α}

/-- The groups that are finished and the one that is being filled hold items in their order. -/
structure Filled (size : Nat) (items : List α) (filled : List (List α) × List α) : Prop where
  items : filled.1.flatten ++ filled.2 = items
  finished : ∀ group ∈ filled.1, group.length = size
  current : filled.2.length < size

theorem Filled.add (h : Filled size items filled) (item : α) :
    Filled size (items ++ [item]) (addToChunk size filled item) := by
  obtain ⟨finished, current⟩ := filled
  have hcurrent : current.length < size := h.current
  have hitems : finished.flatten ++ (current ++ [item]) = items ++ [item] := by rw [← h.items, List.append_assoc]
  unfold addToChunk
  dsimp only
  split
  · next hfull =>
    refine ⟨?_, fun group hgroup => ?_, by simpa using Nat.zero_lt_of_lt hcurrent⟩
    · rw [List.flatten_append, List.flatten_singleton, List.append_nil, hitems]
    · rcases List.mem_append.mp hgroup with hgroup | hgroup
      · exact h.finished group hgroup
      · rw [List.mem_singleton.mp hgroup, hfull]
  · next hopen =>
    refine ⟨hitems, h.finished, ?_⟩
    rw [List.length_append, List.length_singleton] at hopen ⊢
    omega

theorem filled_foldl (hsize : 0 < size) (items : List α) :
    Filled size items (items.foldl (addToChunk size) ([], [])) := by
  induction items using List.reverseRecOn with
  | nil => exact ⟨rfl, List.forall_mem_nil _, hsize⟩
  | append_singleton items item ih =>
    rw [List.foldl_append]
    exact ih.add item

theorem flatten_chunks (hsize : 0 < size) (items : List α) : (chunks size items).flatten = items := by
  have hitems := (filled_foldl hsize items).items
  unfold chunks
  generalize items.foldl (addToChunk size) ([], []) = filled at hitems
  dsimp only
  split
  · next hempty => rwa [List.isEmpty_iff.mp hempty, List.append_nil] at hitems
  · rwa [List.flatten_append, List.flatten_singleton]

/-- All groups have the size if the number of items is a multiple of it. -/
theorem length_of_mem_chunks (hsize : 0 < size) (h : size ∣ items.length) :
    ∀ group ∈ chunks size items, group.length = size := by
  obtain ⟨hitems, hfinished, hcurrent⟩ := filled_foldl hsize items
  unfold chunks
  generalize items.foldl (addToChunk size) ([], []) = filled at hitems hfinished hcurrent
  have hempty : filled.2 = [] := by
    have hlength : (filled.1.flatMap id).length = filled.1.length * size := length_flatMap_of_forall hfinished
    rw [List.flatMap_id] at hlength
    rw [← hitems, List.length_append, hlength, Nat.dvd_add_right (Nat.dvd_mul_left ..)] at h
    exact List.length_eq_zero_iff.mp (Nat.eq_zero_of_dvd_of_lt h hcurrent)
  dsimp only
  rw [hempty]
  exact hfinished

example : chunks 2 [1, 2, 3, 4, 5] = [[1, 2], [3, 4], [5]] := by decide

end Chunks

/-! ### Excerpts of one hit -/

section Hit
variable {hit : Hit E} {slots : List (Option (String × String) × String)} {field : String}

theorem withExcerpts_cons (hit : Hit E) (slot : Option (String × String) × String)
    (slots : List (Option (String × String) × String)) :
    hit.withExcerpts (slot :: slots) = (hit.withExcerpts [slot]).withExcerpts slots := rfl

theorem get?_withExcerpts_singleton (selected : Option (String × String)) (excerpt : String) :
    (hit.withExcerpts [(selected, excerpt)]).excerpts.get? field =
      if selected.map (·.1) = some field then some excerpt else hit.excerpts.get? field := by
  cases selected with
  | none => simp [Hit.withExcerpts]
  | some selected => simp [Hit.withExcerpts, SortedMap.get?_insert]

theorem get?_withExcerpts_of_forall (h : ∀ slot ∈ slots, slot.1.map (·.1) ≠ some field) :
    (hit.withExcerpts slots).excerpts.get? field = hit.excerpts.get? field := by
  induction slots generalizing hit with
  | nil => rfl
  | cons slot slots ih =>
    obtain ⟨hslot, hslots⟩ := List.forall_mem_cons.mp h
    rw [withExcerpts_cons, ih hslots, get?_withExcerpts_singleton, if_neg hslot]

/-- The last slot of a field counts. -/
theorem get?_withExcerpts_of_last {g : Nat} {selected : Option (String × String)} {excerpt : String}
    (hslot : slots[g]? = some (selected, excerpt)) (hfield : selected.map (·.1) = some field)
    (hlast : ∀ later slot, g < later → slots[later]? = some slot → slot.1.map (·.1) ≠ some field) :
    (hit.withExcerpts slots).excerpts.get? field = some excerpt := by
  induction slots generalizing hit g with
  | nil => cases hslot
  | cons slot slots ih =>
    rw [withExcerpts_cons]
    cases g with
    | zero =>
      obtain rfl := Option.some.inj hslot
      have hrest : ∀ slot ∈ slots, slot.1.map (·.1) ≠ some field := fun slot hmem => by
        obtain ⟨later, hlater⟩ := List.mem_iff_getElem?.mp hmem
        exact hlast (later + 1) slot (Nat.succ_pos later) hlater
      rw [get?_withExcerpts_of_forall hrest, get?_withExcerpts_singleton, if_pos hfield]
    | succ g => exact ih hslot fun later slot hlater => hlast (later + 1) slot (Nat.succ_lt_succ hlater)

end Hit

/-! ### Excerpts of all hits -/

/-- A call has a text for each hit and group, at the place of the hit and the group. -/
structure ExcerptCall.Asks (call : ExcerptCall) (host : Host σ E) (groups : List (List String)) (hits : List (Hit E)) :
    Prop where
  length : call.texts.length = hits.length * groups.length
  sent : ∀ {i g : Nat} {hit : Hit E} {group : List String}, hits[i]? = some hit → groups[g]? = some group →
    ∃ text, call.texts[i * groups.length + g]? = some text ∧ host.Sends hit.entity group text

/-- The hits have got the excerpts of a reply: each field the one at the place of the hit and the last group that
    selects the field. All else is as it was. -/
structure Host.Excerpted (host : Host σ E) (groups : List (List String)) (reply : List String)
    (hits marked : List (Hit E)) : Prop where
  refs : marked.map (·.ref) = hits.map (·.ref)
  entities : marked.map (·.entity) = hits.map (·.entity)
  last : ∀ {i g : Nat} {hit hit' : Hit E} {group : List String} {field text : String}, hits[i]? = some hit →
    marked[i]? = some hit' → groups[g]? = some group → host.Selects hit.entity group field text →
    (∀ later group', g < later → groups[later]? = some group' → ∀ text', ¬host.Selects hit.entity group' field text') →
    hit'.excerpts.get? field = reply[i * groups.length + g]?
  kept : ∀ {i : Nat} {hit hit' : Hit E} {field : String}, hits[i]? = some hit → marked[i]? = some hit' →
    (∀ group ∈ groups, ∀ text, ¬host.Selects hit.entity group field text) →
    hit'.excerpts.get? field = hit.excerpts.get? field

section Aligned
variable (host : Host σ E) (groups : List (List String)) (hits : List (Hit E))

def excerptCall (index query : String) (options : HighlightOptions) : ExcerptCall :=
  ⟨(hits.flatMap (selections host groups)).map excerptText, index, query, options⟩

/-- The hits among which a reply has been shared out. -/
def markedHits (reply : List String) : List (Hit E) :=
  excerptEach hits (chunks groups.length ((hits.flatMap (selections host groups)).zip reply))

variable {host groups hits}

theorem length_selections (hit : Hit E) : (selections host groups hit).length = groups.length := by
  rw [selections, List.length_map]

variable (host groups hits) in
theorem length_selected : (hits.flatMap (selections host groups)).length = hits.length * groups.length :=
  length_flatMap_of_forall fun hit _ => length_selections hit

theorem getElem?_selected {i g : Nat} {hit : Hit E} (hhit : hits[i]? = some hit) (hg : g < groups.length) :
    (hits.flatMap (selections host groups))[i * groups.length + g]? = groups[g]?.map (selectField host hit.entity) := by
  rw [getElem?_flatMap_of_forall (fun hit _ => length_selections hit) hhit hg, selections, List.getElem?_map]

variable (host groups hits) in
theorem asks_excerptCall (index query : String) (options : HighlightOptions) :
    (excerptCall host groups hits index query options).Asks host groups hits := by
  refine ⟨(List.length_map _).trans (length_selected host groups hits), fun {i g hit group} hhit hgroup => ?_⟩
  obtain ⟨hg, -⟩ := List.getElem?_eq_some_iff.mp hgroup
  refine ⟨excerptText (selectField host hit.entity group), ?_, sends_excerptText⟩
  rw [excerptCall, List.getElem?_map, getElem?_selected hhit hg, hgroup]
  rfl

/-- The slots of a hit are those of its groups, with the part of the reply that begins at the place of the hit. -/
theorem getElem?_markedHits {reply : List String} (hreply : reply.length = hits.length * groups.length)
    (hgroups : 0 < groups.length) {i : Nat} {hit : Hit E} (hhit : hits[i]? = some hit) :
    ∃ slots, (markedHits host groups hits reply)[i]? = some (hit.withExcerpts slots) ∧
      ∀ g slot, slots[g]? = some slot ↔
        (∃ group, groups[g]? = some group ∧ selectField host hit.entity group = slot.1) ∧
          reply[i * groups.length + g]? = some slot.2 := by
  have hlength : ((hits.flatMap (selections host groups)).zip reply).length = hits.length * groups.length := by
    rw [List.length_zip, length_selected, hreply, Nat.min_self]
  let rows := chunks groups.length ((hits.flatMap (selections host groups)).zip reply)
  have hrows : rows.flatMap id = (hits.flatMap (selections host groups)).zip reply := by
    rw [List.flatMap_id]
    exact flatten_chunks hgroups _
  have hrow : ∀ row ∈ rows, row.length = groups.length :=
    length_of_mem_chunks hgroups (hlength ▸ Nat.dvd_mul_left ..)
  have hcount : rows.length = hits.length := by
    refine Nat.eq_of_mul_eq_mul_right hgroups ?_
    rw [← hlength, ← hrows]
    exact (length_flatMap_of_forall hrow).symm
  obtain ⟨hi, -⟩ := List.getElem?_eq_some_iff.mp hhit
  obtain ⟨slots, hslots⟩ : ∃ slots, rows[i]? = some slots := ⟨_, List.getElem?_eq_getElem (hcount ▸ hi)⟩
  refine ⟨slots, getElem?_excerptEach hhit hslots, fun g slot => ?_⟩
  by_cases hg : g < groups.length
  · have hat : (rows.flatMap id)[i * groups.length + g]? = slots[g]? := getElem?_flatMap_of_forall hrow hslots hg
    rw [hrows] at hat
    rw [← hat, List.getElem?_zip_eq_some, getElem?_selected hhit hg, Option.map_eq_some_iff]
  · have hslot : slots[g]? = none :=
      List.getElem?_eq_none (by rw [hrow slots (List.mem_of_getElem? hslots)]; omega)
    have hgroup : groups[g]? = none := List.getElem?_eq_none (by omega)
    simp [hslot, hgroup]

/-- Excerpts change nothing else of a hit. -/
theorem map_markedHits {β : Type} {f : Hit E → β} (hf : ∀ hit slots, f (Hit.withExcerpts hit slots) = f hit)
    (reply : List String) : (markedHits host groups hits reply).map f = hits.map f := map_excerptEach hf hits _

theorem excerpted_markedHits {reply : List String} (hreply : reply.length = hits.length * groups.length)
    (hgroups : 0 < groups.length) : host.Excerpted groups reply hits (markedHits host groups hits reply) where
  refs := map_markedHits (fun _ _ => rfl) reply
  entities := map_markedHits (fun _ _ => rfl) reply
  last := by
    intro i g hit hit' group field text hhit hhit' hgroup hselects hlast
    obtain ⟨slots, hmarked, hslots⟩ := getElem?_markedHits hreply hgroups hhit
    obtain rfl := Option.some.inj (hmarked.symm.trans hhit')
    obtain ⟨hi, -⟩ := List.getElem?_eq_some_iff.mp hhit
    obtain ⟨hg, -⟩ := List.getElem?_eq_some_iff.mp hgroup
    -- The reply reaches up to the place, so the slot of the hit and the group is filled.
    have hplace : i * groups.length + g < reply.length := by
      have := Nat.mul_le_mul_right groups.length (Nat.succ_le_of_lt hi)
      rw [Nat.succ_mul] at this
      omega
    have hexcerpt := List.getElem?_eq_getElem hplace
    have hslot := (hslots g (some (field, text), reply[i * groups.length + g])).mpr
      ⟨⟨group, hgroup, selectField_eq_some_iff.mpr hselects⟩, hexcerpt⟩
    rw [hexcerpt]
    -- A later slot was selected for its own group, which does not select the field.
    refine get?_withExcerpts_of_last hslot rfl fun later slot hlater hat => ?_
    obtain ⟨⟨group', hgroup', hslot'⟩, -⟩ := (hslots later slot).mp hat
    rw [← hslot']
    exact map_fst_selectField_ne (hlast later group' hlater hgroup')
  kept := by
    intro i hit hit' field hhit hhit' hnone
    obtain ⟨slots, hmarked, hslots⟩ := getElem?_markedHits hreply hgroups hhit
    obtain rfl := Option.some.inj (hmarked.symm.trans hhit')
    refine get?_withExcerpts_of_forall fun slot hslot => ?_
    obtain ⟨g, hat⟩ := List.mem_iff_getElem?.mp hslot
    obtain ⟨⟨group, hgroup, hselect⟩, -⟩ := (hslots g slot).mp hat
    rw [← hselect]
    exact map_fst_selectField_ne (hnone group (List.mem_of_getElem? hgroup))

end Aligned

/-! ### The call -/

/-- The state of a host after one call has been made some times. -/
def Host.afterCalls (host : Host σ E) (call : ExcerptCall) (n : Nat) (s : σ) : σ :=
  (fun s => (host.buildExcerpts call s).2)^[n] s

theorem afterCalls_recorded (host : Host σ E) (call : ExcerptCall) (n : Nat) (s : σ × List Call) :
    host.recorded.afterCalls call n s =
      (host.afterCalls call n s.1, s.2 ++ List.replicate n (.buildExcerpts call)) :=
  iterate_logged (fun s => (host.buildExcerpts call s).2) (Call.buildExcerpts call) n s

/-- The hits of a caller who asked for excerpts: a failure leaves them as they were. -/
def heldHits (hits : List (Hit E)) (given : Except SearchError (List (Hit E))) : List (Hit E) :=
  given.toOption.getD hits

/-- What a reply comes to: what is given to the caller, and the hits that the caller holds. -/
inductive Host.Concludes (host : Host σ E) (groups : List (List String)) (call : ExcerptCall) (hits : List (Hit E)) :
    Except SearchError (List String) → Except SearchError (List (Hit E)) → List (Hit E) → Prop
  | failed (error : SearchError) : Concludes host groups call hits (.error error) (.error error) hits
  | miscounted {reply : List String} : reply.length ≠ call.texts.length → Concludes host groups call hits (.ok reply)
      (.error (.excerptCount reply.length call.texts.length)) hits
  | excerpted {reply : List String} {marked : List (Hit E)} : reply.length = call.texts.length →
      host.Excerpted groups reply hits marked → Concludes host groups call hits (.ok reply) (.ok marked) marked

def shareOut {τ : Type} (host : Host σ E) (groups : List (List String)) (call : ExcerptCall) (hits : List (Hit E))
    (reply : List String) : Act τ (List (Hit E)) :=
  if reply.length = call.texts.length then return markedHits host groups hits reply
  else throw (.excerptCount reply.length call.texts.length)

theorem concludes_shareOut {τ : Type} {host : Host σ E} {groups : List (List String)} {call : ExcerptCall}
    {hits : List (Hit E)} (hasks : call.Asks host groups hits) (hgroups : groups ≠ []) (ask : Act τ (List String))
    (world : World τ) :
    after (ask >>= shareOut host groups call hits) world = after ask world ∧
      host.Concludes groups call hits (outcome ask world) (outcome (ask >>= shareOut host groups call hits) world)
        (heldHits hits (outcome (ask >>= shareOut host groups call hits) world)) := by
  cases hreply : outcome ask world with
  | error error =>
    rw [outcome_bind_of_error hreply, after_bind_of_error hreply]
    exact ⟨rfl, .failed error⟩
  | ok reply =>
    rw [outcome_bind_of_ok hreply, after_bind_of_ok hreply]
    unfold shareOut
    by_cases hlength : reply.length = call.texts.length
    · rw [if_pos hlength]
      exact ⟨rfl, .excerpted hlength
        (excerpted_markedHits (hlength.trans hasks.length) (List.length_pos_iff.mpr hgroups))⟩
    · rw [if_neg hlength]
      exact ⟨rfl, .miscounted hlength⟩

theorem excerptHits_of_isEmpty (host : Host σ E) (retry : RetryPolicy) {options : ExcerptOptions} (index query : String)
    {hits : List (Hit E)} (h : hits = [] ∨ options.contentMethods = []) (world : World σ) :
    excerptHits host retry options index query hits world = (.ok hits, world) := by
  have hcond : (hits.isEmpty || options.contentMethods.isEmpty) = true := by
    simpa [List.isEmpty_iff] using h
  unfold excerptHits
  rw [if_pos hcond]
  rfl

theorem excerptHits_eq (host : Host σ E) (retry : RetryPolicy) (options : ExcerptOptions) (index query : String)
    {hits : List (Hit E)} (hhits : hits ≠ []) (hgroups : options.contentMethods ≠ []) :
    let call := excerptCall host options.contentMethods hits index (Query.highlightTerms query)
      options.toHighlightOptions
    excerptHits host retry options index query hits =
      (retry.run "build_excerpts" (Act.onHost (host.buildExcerpts call)) >>=
        shareOut host options.contentMethods call hits) := by
  intro call
  have hcond : (hits.isEmpty || options.contentMethods.isEmpty) = false := by simp [hhits, hgroups]
  unfold excerptHits
  rw [if_neg (by simp [hcond])]
  simp only [ite_not]
  rfl

/-- The session of a search whose results have no excerpts yet gets those of its results, and holds what any caller
    holds. -/
theorem Search.excerpt_of_plain (context : SearchContext) (host : Host σ E) (search : Search) {progress : Progress E}
    {hits : List (Hit E)} (hexecuted : progress.executed = true) (hresults : progress.results = some hits)
    (hplain : progress.excerpted = false) (world : World σ) :
    let act := excerptHits host search.retry context.config.excerpting context.config.daemon.indexName search.query hits
    outcome (Search.excerpt context host search) { progress, world } = outcome act world ∧
      (after (Search.excerpt context host search) { progress, world }).progress.results =
        some (heldHits hits (outcome act world)) := by
  intro act
  have hresolved : ensureResolved context host search { progress, world } = (.ok hits, { progress, world }) := by
    unfold ensureResolved
    rw [bind_of_ok (ensureRun_of_executed context host search hexecuted), hresults]
    rfl
  unfold Search.excerpt after outcome
  rw [bind_of_ok hresolved, get_bind, hplain, if_neg Bool.false_ne_true]
  rcases hact : act world with ⟨error | marked, world'⟩
  · rw [bind_of_error (ofAct_of_error hact)]
    exact ⟨rfl, hresults⟩
  · rw [bind_of_ok (ofAct_of_ok hact)]
    exact ⟨rfl, rfl⟩

/-- Excerpts land on their hit and field. Without hits or groups nothing happens. Otherwise one call asks for a text
    of each hit and group; it is made once and again after each transient failure, up to the retries of the policy.
    What its last reply says is what the caller gets. A session whose results have no excerpts yet gets the same, and
    keeps its results as they are if there is a failure. -/
theorem excerptHits_aligned (context : SearchContext) (host : Host σ E) (search : Search) (hits : List (Hit E))
    (world : World (σ × List Call)) :
    let options := context.config.excerpting
    let groups := options.contentMethods
    let index := context.config.daemon.indexName
    let act := excerptHits host.recorded search.retry options index search.query hits
    (hits = [] ∨ groups = [] → act world = (.ok hits, world)) ∧
      (hits ≠ [] → groups ≠ [] → ∃ call : ExcerptCall, call.Asks host groups hits ∧ call.index = index ∧
        call.query = Query.highlightTerms search.query ∧ call.options = options.toHighlightOptions ∧
        ∃ failed ≤ search.retry.maxRetries,
          (∀ i < failed, ∃ error, (host.buildExcerpts call (host.afterCalls call i world.host.1)).1 = .error error ∧
            error.isTransient = true) ∧
          (after act world).host = (host.afterCalls call (failed + 1) world.host.1,
            world.host.2 ++ List.replicate (failed + 1) (.buildExcerpts call)) ∧
          host.Concludes groups call hits (host.buildExcerpts call (host.afterCalls call failed world.host.1)).1
            (outcome act world) (heldHits hits (outcome act world))) ∧
      ∀ progress : Search.Progress E, progress.executed = true → progress.results = some hits →
        progress.excerpted = false →
        outcome (Search.excerpt context host.recorded search) { progress, world } = outcome act world ∧
          (after (Search.excerpt context host.recorded search) { progress, world }).progress.results =
            some (heldHits hits (outcome act world)) := by
  intro options groups index act
  refine ⟨fun hempty => excerptHits_of_isEmpty host.recorded search.retry index search.query hempty world,
    fun hhits hgroups => ?_, fun progress hexecuted hresults hplain =>
      Search.excerpt_of_plain context host.recorded search hexecuted hresults hplain world⟩
  let call := excerptCall host groups hits index (Query.highlightTerms search.query) options.toHighlightOptions
  let ask := search.retry.run "build_excerpts" (Act.onHost (host.recorded.buildExcerpts call))
  have hact : act = (ask >>= shareOut host groups call hits) :=
    excerptHits_eq host.recorded search.retry options index search.query hhits hgroups
  have hasks : call.Asks host groups hits := asks_excerptCall host groups hits _ _ _
  obtain ⟨failed, hle, hfailed, hlast, hhost⟩ := search.retry.run_onHost "build_excerpts"
    (host.recorded.buildExcerpts call) world
  have hstate : ∀ n, (fun s => (host.recorded.buildExcerpts call s).2)^[n] world.host =
      (host.afterCalls call n world.host.1, world.host.2 ++ List.replicate n (.buildExcerpts call)) := fun n =>
    afterCalls_recorded host call n world.host
  rw [hstate] at hlast hhost
  refine ⟨call, hasks, rfl, rfl, rfl, failed, hle, fun i hi => ?_, ?_⟩
  · obtain ⟨error, herror, htransient⟩ := hfailed i hi
    rw [hstate] at herror
    exact ⟨error, herror, htransient⟩
  obtain ⟨hafter, hconcludes⟩ := concludes_shareOut hasks hgroups ask world
  rw [hact, hafter]
  refine ⟨hhost, ?_⟩
  rw [hlast] at hconcludes
  exact hconcludes

/-- A host whose daemon cannot be reached the first time. A record is a list of its fields. -/
def lateExcerpts : Host Nat (List (String × String)) where
  query _ _ calls := (.ok {}, calls)
  buildExcerpts _ calls :=
    (if calls = 0 then .error (.transient "down") else .ok ["dogs.", "a dog.", "a dog!", "", "cat.", "cat!"],
      calls + 1)
  resolveCached _ _ calls := (none, calls)
  resolve _ keys calls := (.ok (keys.map fun _ => none), calls)
  field? record name := SortedMap.lookup name record

/-- A configuration with one retry, in which two groups select the body of a record. -/
def bodyTwice : SearchContext :=
  ⟨{ excerpting := { contentMethods := [["title", "name"], ["body", "text"], ["body"]] }, client := { maxRetries := 1 } },
    .empty⟩

def dogsTwice : Search :=
  .ofOptions bodyTwice
    { query := "dog", page := 1, perPage := 20, classNames := [], sortMode := "relevance", sortBy := none,
      weights := .empty, filters := .empty, facets := [] }

/-- The second record has no field of the first group. Of the control characters in the bodies only the tab is sent. -/
theorem excerptHits_aligned_lateExcerpts :
    let groups := bodyTwice.config.excerpting.contentMethods
    let hits : List (Hit (List (String × String))) :=
      [⟨⟨"Seller", 1⟩, [("title", "dogs"), ("body", "a\x00dog")], .empty⟩, ⟨⟨"Seller", 2⟩, [("body", "big\tcat")], .empty⟩]
    let progress : Search.Progress (List (String × String)) := { executed := true, results := some hits }
    let world : World (Nat × List Call) := ⟨(0, []), {}, []⟩
    let session := after (Search.excerpt bodyTwice lateExcerpts.recorded dogsTwice) { progress, world }
    ∃ call : ExcerptCall, call.Asks lateExcerpts groups hits ∧
      call.texts = ["dogs", "a dog", "a dog", "", "big\tcat", "big\tcat"] ∧
      ∃ marked, lateExcerpts.Excerpted groups ["dogs.", "a dog.", "a dog!", "", "cat.", "cat!"] hits marked ∧
        session.progress.results = some marked ∧
        marked.map (fun hit => (hit.excerpts.get? "title", hit.excerpts.get? "body")) =
          [(some "dogs.", some "a dog!"), (none, some "cat!")] := by
  intro groups hits progress world session
  let act := excerptHits lateExcerpts.recorded dogsTwice.retry bodyTwice.config.excerpting
    bodyTwice.config.daemon.indexName dogsTwice.query hits
  obtain ⟨-, h, hsession⟩ := excerptHits_aligned bodyTwice lateExcerpts dogsTwice hits world
  obtain ⟨call, hasks, -, -, -, failed, -, -, hhost, hconcludes⟩ := h (List.cons_ne_nil _ _) (List.cons_ne_nil _ _)
  obtain ⟨-, hheld⟩ := hsession progress rfl rfl rfl
  have htexts : (after act world).host.2.map (fun
      | .buildExcerpts call => call.texts
      | _ => []) =
        List.replicate 2 ["dogs", "a dog", "a dog", "", "big\tcat", "big\tcat"] := by decide +kernel
  have hfields : (outcome act world).toOption.map (fun marked =>
      marked.map fun hit => (hit.excerpts.get? "title", hit.excerpts.get? "body")) =
        some [(some "dogs.", some "a dog!"), (none, some "cat!")] := by decide +kernel
  change (after act world).host = _ at hhost
  rw [hhost, List.nil_append, List.map_replicate, List.replicate_inj] at htexts
  obtain ⟨hfailed, hsent⟩ := htexts
  obtain rfl : failed = 1 := Nat.succ.inj hfailed
  change lateExcerpts.Concludes groups call hits (.ok _) (outcome act world) (heldHits hits (outcome act world)) at hconcludes
  change session.progress.results = some (heldHits hits (outcome act world)) at hheld
  generalize heldHits hits (outcome act world) = held at hconcludes hheld
  generalize outcome act world = given at hconcludes hfields
  cases hconcludes with
  | miscounted => cases hfields
  | excerpted _ hexcerpted =>
    exact ⟨call, hasks, hsent.resolve_left (by decide), held, hexcerpted, hheld, Option.some.inj hfields⟩

end SearchClient
