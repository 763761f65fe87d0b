import Mathlib.Data.List.Dedup
import Mathlib.Data.List.Induction
import SearchClient.SortedMap

/-! What a map holds that was made from a list of entries: for each key the last value, and as many entries
    as the list has different keys. -/

namespace SearchClient

/-- An element is the last of a list with its value under `key`. -/
def IsLastBy {α κ : Type} (key : α → κ) (es : List α) (e : α) : Prop :=
  ∃ before after, es = before ++ e :: after ∧ ∀ e' ∈ after, key e' ≠ key e

namespace IsLastBy
variable {α β κ : Type} {key : α → κ} {es : List α} {e e' : α}

theorem mem (h : IsLastBy key es e) : e ∈ es := by
  obtain ⟨before, after, rfl, -⟩ := h
  simp

theorem not_nil : ¬IsLastBy key [] e := fun h => List.not_mem_nil h.mem

/-- The last element of a list hides the earlier ones with its value. -/
theorem append_singleton :
    IsLastBy key (es ++ [e']) e ↔ e = e' ∨ key e' ≠ key e ∧ IsLastBy key es e := by
  constructor
  · rintro ⟨before, after, heq, hafter⟩
    rcases List.eq_nil_or_concat after with rfl | ⟨after, x, rfl⟩
    · obtain ⟨-, h⟩ := List.append_inj' heq rfl
      exact .inl (List.cons.inj h).1.symm
    · have hsplit : es ++ [e'] = (before ++ e :: after) ++ [x] := by
        simpa using heq
      obtain ⟨rfl, hx⟩ := List.append_inj' hsplit rfl
      obtain rfl : e' = x := (List.cons.inj hx).1
      exact .inr ⟨hafter e' (by simp), before, after, rfl, fun y hy => hafter y (by simp [hy])⟩
  · rintro (rfl | ⟨hne, before, after, rfl, hafter⟩)
    · exact ⟨es, [], rfl, by simp⟩
    · refine ⟨before, after ++ [e'], by simp, fun y hy => ?_⟩
      rcases List.mem_append.mp hy with hy | hy
      · exact hafter y hy
      · obtain rfl := List.mem_singleton.mp hy
        exact hne

theorem map_iff_exists {f : β → α} {es : List β} {e : α} :
    IsLastBy key (es.map f) e ↔ ∃ b, f b = e ∧ IsLastBy (key ∘ f) es b := by
  constructor
  · rintro ⟨before, after, heq, hafter⟩
    obtain ⟨before, rest, rfl, rfl, hrest⟩ := List.map_eq_append_iff.mp heq
    obtain ⟨x, after, rfl, rfl, rfl⟩ := List.map_eq_cons_iff.mp hrest
    exact ⟨x, rfl, before, after, rfl, fun y hy => hafter (f y) (List.mem_map_of_mem hy)⟩
  · rintro ⟨b, rfl, before, after, rfl, hafter⟩
    refine ⟨before.map f, after.map f, by simp, fun y hy => ?_⟩
    obtain ⟨x, hx, rfl⟩ := List.mem_map.mp hy
    exact hafter x hx

theorem map_iff {f : β → α} {es : List β} {e : β} (hf : f.Injective) :
    IsLastBy key (es.map f) (f e) ↔ IsLastBy (key ∘ f) es e := by
  simp [map_iff_exists, hf.eq_iff]

/-- If no value repeats, each element is the last with its value. -/
theorem of_nodup (h : (es.map key).Nodup) (he : e ∈ es) : IsLastBy key es e := by
  obtain ⟨before, after, rfl⟩ := List.append_of_mem he
  refine ⟨before, after, rfl, fun y hy heq => ?_⟩
  rw [List.map_append, List.map_cons] at h
  have hcons := (List.nodup_append.mp h).2.1
  exact (List.nodup_cons.mp hcons).1 (heq ▸ List.mem_map_of_mem hy)

end IsLastBy

namespace SortedMap

theorem lookup_eq_some_iff {κ α : Type} [DecidableEq κ] {k : κ} {v : α} :
    ∀ {es : List (κ × α)}, (es.map Prod.fst).Nodup → (lookup k es = some v ↔ (k, v) ∈ es)
  | [], _ => by simp [lookup]
  | e :: es, h => by
    obtain ⟨hnot, hnodup⟩ := List.nodup_cons.mp h
    have ih := lookup_eq_some_iff (k := k) (v := v) hnodup
    unfold lookup
    split
    · next hk =>
      subst hk
      have htail : (e.1, v) ∉ es := fun hmem => hnot (List.mem_map.mpr ⟨_, hmem, rfl⟩)
      simp [htail, Prod.ext_iff, eq_comm]
    · next hk => simp [ih, Prod.ext_iff, Ne.symm hk]

theorem mem_of_lookup {κ α : Type} [DecidableEq κ] {k : κ} {v : α} :
    ∀ {es : List (κ × α)}, lookup k es = some v → (k, v) ∈ es
  | e :: es, h => by
    unfold lookup at h
    split at h
    · next hk =>
      cases h
      exact hk ▸ List.mem_cons_self
    · exact List.mem_cons_of_mem _ (mem_of_lookup h)

theorem isSome_lookup_iff {κ α : Type} [DecidableEq κ] {k : κ} :
    ∀ {es : List (κ × α)}, (lookup k es).isSome = true ↔ k ∈ es.map Prod.fst
  | [] => by simp [lookup]
  | e :: es => by
    unfold lookup
    split
    · next h => simp [← h]
    · next h => rw [isSome_lookup_iff, List.map_cons, List.mem_cons, or_iff_right (Ne.symm h)]

theorem lookup_eq_none_iff {κ α : Type} [DecidableEq κ] {k : κ} {es : List (κ × α)} :
    lookup k es = none ↔ k ∉ es.map Prod.fst := by
  rw [← isSome_lookup_iff, Bool.not_eq_true, Option.isSome_eq_false_iff, Option.isNone_iff_eq_none]

theorem lookup_append {κ α : Type} [DecidableEq κ] (k : κ) (es' : List (κ × α)) :
    ∀ es : List (κ × α), lookup k (es ++ es') = (lookup k es).or (lookup k es')
  | [] => rfl
  | e :: es => by
    rw [List.cons_append, lookup, lookup, lookup_append k es' es]
    split <;> rfl

/-- Read from its end, a list of entries gives for a key the last one. -/
theorem lookup_reverse_eq_some_iff {κ α : Type} [DecidableEq κ] {k : κ} {v : α} {es : List (κ × α)} :
    lookup k es.reverse = some v ↔ IsLastBy Prod.fst es (k, v) := by
  induction es using List.reverseRecOn with
  | nil => simp [lookup, IsLastBy.not_nil]
  | append_singleton es e ih =>
    rw [List.reverse_append, List.reverse_singleton, List.singleton_append, lookup, IsLastBy.append_singleton, ← ih]
    by_cases h : e.1 = k
    · subst h
      simp [Prod.ext_iff, eq_comm]
    · simp [h, Prod.ext_iff, Ne.symm h]

theorem lookup_map_snd {κ α β : Type} [DecidableEq κ] (f : α → β) (k : κ) :
    ∀ es : List (κ × α), lookup k (es.map fun e => (e.1, f e.2)) = (lookup k es).map f
  | [] => rfl
  | e :: es => by
    simp only [List.map_cons, lookup, lookup_map_snd f k es]
    split <;> rfl

section View
variable {κ α : Type} [LT κ] [DecidableEq κ] [LE κ] [Std.LawfulOrderLT κ]

omit [DecidableEq κ] in
theorem nodup_keys (m : SortedMap κ α) : m.keys.Nodup := by
  refine List.pairwise_map.mpr (m.sorted.imp fun hlt heq => ?_)
  rw [heq] at hlt
  exact Std.lt_irrefl hlt

theorem get?_eq_some_iff {m : SortedMap κ α} {k : κ} {v : α} : m.get? k = some v ↔ (k, v) ∈ m.entries :=
  lookup_eq_some_iff m.nodup_keys

omit [LE κ] [Std.LawfulOrderLT κ] in
@[simp] theorem get?_mapValues {β : Type} (m : SortedMap κ α) (f : α → β) (k : κ) :
    (m.mapValues f).get? k = (m.get? k).map f := lookup_map_snd f k m.entries

theorem get?_filterMap {β : Type} (m : SortedMap κ α) (f : κ → α → Option β) (k : κ) :
    (m.filterMap f).get? k = (m.get? k).bind (f k) := by
  refine Option.ext fun v => ?_
  rw [get?_eq_some_iff, Option.bind_eq_some_iff]
  constructor
  · intro h
    obtain ⟨⟨k', a⟩, hmem, he⟩ := List.mem_filterMap.mp h
    obtain ⟨v', hv, heq⟩ := Option.map_eq_some_iff.mp he
    obtain ⟨rfl, rfl⟩ := Prod.mk.inj heq
    exact ⟨a, get?_eq_some_iff.mpr hmem, hv⟩
  · rintro ⟨a, ha, hv⟩
    exact List.mem_filterMap.mpr ⟨(k, a), get?_eq_some_iff.mp ha, Option.map_eq_some_iff.mpr ⟨v, hv, rfl⟩⟩

theorem get?_filterMap_of_mem {β : Type} {m : SortedMap κ α} {k : κ} {v : α} (h : (k, v) ∈ m.toList)
    (f : κ → α → Option β) : (m.filterMap f).get? k = f k v := by
  rw [get?_filterMap, get?_eq_some_iff.mpr h, Option.bind_some]

theorem mem_keys_iff {m : SortedMap κ α} {k : κ} : k ∈ m.keys ↔ ∃ v, m.get? k = some v := by
  simp [keys, get?_eq_some_iff]

/-- A map is as large as its keys are many. -/
theorem size_eq_of_mem_keys {m : SortedMap κ α} {ks : List κ} (h : ∀ k, k ∈ m.keys ↔ k ∈ ks) :
    m.size = ks.dedup.length := by
  have hkeys : m.keys.Perm ks.dedup :=
    (List.perm_ext_iff_of_nodup (nodup_keys _) (List.nodup_dedup _)).mpr fun k => by rw [h, List.mem_dedup]
  rw [← hkeys.length_eq, keys, List.length_map, size]

omit [DecidableEq κ] in
theorem nodup_toList (m : SortedMap κ α) : m.toList.Nodup := List.Nodup.of_map _ m.nodup_keys

omit [DecidableEq κ] in
/-- The entries of a map tell it, in whatever order they are listed. -/
theorem eq_of_perm {m n : SortedMap κ α} (h : m.toList.Perm n.toList) : m = n :=
  eq_of_entries (h.eq_of_pairwise (fun _ _ _ _ hlt hgt => absurd hgt (Std.not_gt_of_lt hlt)) m.sorted n.sorted)

/-- Maps that give the same values are equal. -/
theorem ext_get? {m n : SortedMap κ α} (h : ∀ k, m.get? k = n.get? k) : m = n :=
  eq_of_perm <| (List.perm_ext_iff_of_nodup m.nodup_toList n.nodup_toList).mpr fun e => by
    rw [toList, toList, ← get?_eq_some_iff, ← get?_eq_some_iff, h]

end View

section OfList
variable {κ α : Type} [LT κ] [DecidableLT κ] [DecidableEq κ] [LE κ] [Std.IsLinearOrder κ] [Std.LawfulOrderLT κ]

theorem ofList_append_singleton (es : List (κ × α)) (e : κ × α) :
    ofList (es ++ [e]) = (ofList es).insert e.1 e.2 := by
  simp [ofList, List.foldl_append]

/-- A map made from entries gives for a key the value of its last entry. -/
theorem get?_ofList_eq_some_iff {es : List (κ × α)} {k : κ} {v : α} :
    (ofList es).get? k = some v ↔ IsLastBy Prod.fst es (k, v) := by
  -- From the end of the list: the last insertion decides for its key and leaves the others alone.
  induction es using List.reverseRecOn with
  | nil => simp [ofList, IsLastBy.not_nil]
  | append_singleton es e ih =>
    rw [ofList_append_singleton, get?_insert, IsLastBy.append_singleton]
    by_cases hk : e.1 = k
    · subst hk
      simp [Prod.ext_iff, eq_comm]
    · simp [hk, ih, Prod.ext_iff, Ne.symm hk]

/-- Without repeated keys every entry counts. -/
theorem get?_ofList_of_nodup {es : List (κ × α)} {k : κ} {v : α} (h : (es.map Prod.fst).Nodup) :
    (ofList es).get? k = some v ↔ (k, v) ∈ es := by
  rw [get?_ofList_eq_some_iff]
  exact ⟨IsLastBy.mem, IsLastBy.of_nodup h⟩

theorem perm_toList_ofList {es : List (κ × α)} (h : (es.map Prod.fst).Nodup) : (ofList es).toList.Perm es :=
  (List.perm_ext_iff_of_nodup (nodup_toList _) (.of_map _ h)).mpr fun _ =>
    get?_eq_some_iff.symm.trans (get?_ofList_of_nodup h)

theorem get?_ofList_eq_lookup {es : List (κ × α)} (h : (es.map Prod.fst).Nodup) (k : κ) :
    (ofList es).get? k = lookup k es :=
  Option.ext fun _ => (get?_ofList_of_nodup h).trans (lookup_eq_some_iff h).symm

theorem ofList_map_snd {β : Type} (f : α → β) (es : List (κ × α)) :
    ofList (es.map fun e => (e.1, f e.2)) = (ofList es).mapValues f := by
  induction es using List.reverseRecOn with
  | nil => rfl
  | append_singleton es e ih =>
    rw [List.map_append, List.map_singleton, ofList_append_singleton, ofList_append_singleton, ih]
    refine ext_get? fun k => ?_
    simp only [get?_insert, get?_mapValues]
    split <;> rfl

theorem ofList_toList (m : SortedMap κ α) : ofList m.toList = m := eq_of_perm (perm_toList_ofList m.nodup_keys)

theorem ofList_filterMap {β : Type} (f : κ → α → Option β) (m : SortedMap κ α) :
    ofList (m.toList.filterMap fun e => (f e.1 e.2).map (e.1, ·)) = m.filterMap f := ofList_toList (m.filterMap f)

/-- Entries whose values depend on their keys give back that dependence. -/
theorem get?_ofList_filterMap (f : κ → Option α) (ks : List κ) (k : κ) :
    (ofList (ks.filterMap fun k => (f k).map (k, ·))).get? k = if k ∈ ks then f k else none := by
  induction ks using List.reverseRecOn with
  | nil => simp [ofList]
  | append_singleton ks k' ih =>
    rw [List.filterMap_append]
    cases hf : f k' with
    | none =>
      rw [List.filterMap_cons_none (by rw [hf, Option.map_none]), List.filterMap_nil, List.append_nil, ih]
      by_cases hk : k = k'
      · subst hk
        simp [hf]
      · simp [hk]
    | some v =>
      rw [List.filterMap_cons_some (by rw [hf, Option.map_some]), List.filterMap_nil, ofList_append_singleton,
        get?_insert, ih]
      by_cases hk : k' = k
      · subst hk
        simp [hf]
      · simp [hk, Ne.symm hk]

/-- Named values of which some are absent. -/
theorem get?_ofList_filterMap_snd {es : List (κ × Option α)} (h : (es.map Prod.fst).Nodup) (k : κ) :
    (ofList (es.filterMap fun e => e.2.map (e.1, ·))).get? k = (lookup k es).join := by
  have hkeys : ((es.filterMap fun e => e.2.map (e.1, ·)).map Prod.fst).Sublist (es.map Prod.fst) := by
    clear h
    induction es with
    | nil => exact .refl _
    | cons e es ih =>
      obtain ⟨k, _ | v⟩ := e
      · exact ih.cons k
      · exact ih.cons_cons k
  refine Option.ext fun v => ?_
  rw [get?_ofList_of_nodup (hkeys.nodup h), Option.join_eq_some_iff, lookup_eq_some_iff h, List.mem_filterMap]
  constructor
  · rintro ⟨⟨k', value⟩, hmem, hvalue⟩
    obtain ⟨v', rfl, heq⟩ := Option.map_eq_some_iff.mp hvalue
    cases heq
    exact hmem
  · intro hmem
    exact ⟨_, hmem, rfl⟩

theorem mem_keys_insert {m : SortedMap κ α} {k k' : κ} {v : α} :
    k' ∈ (m.insert k v).keys ↔ k' = k ∨ k' ∈ m.keys := by
  rw [mem_keys_iff, mem_keys_iff, get?_insert]
  by_cases hk : k = k'
  · simp [hk]
  · simp [hk, Ne.symm hk]

theorem mem_keys_ofList {es : List (κ × α)} {k : κ} : k ∈ (ofList es).keys ↔ k ∈ es.map Prod.fst := by
  induction es using List.reverseRecOn with
  | nil => simp [ofList, keys, empty]
  | append_singleton es e ih =>
    rw [ofList_append_singleton, mem_keys_insert, ih, List.map_append, List.mem_append, or_comm]
    simp

/-- A map made from entries is as large as their keys are many. -/
theorem size_ofList (es : List (κ × α)) : (ofList es).size = (es.map Prod.fst).dedup.length :=
  size_eq_of_mem_keys fun _ => mem_keys_ofList

end OfList
end SortedMap
end SearchClient
