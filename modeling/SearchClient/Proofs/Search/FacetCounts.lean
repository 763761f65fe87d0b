import Mathlib.Algebra.Ring.Nat
import SearchClient.Proofs.SortedMap
import SearchClient.Proofs.Search.Action

/-! Which values facet counts keep, and with which counts. The daemon's groups add up value by value; of the values
    those with the greatest sums are kept. Neither depends on the order of the groups. -/

namespace SearchClient
namespace FacetCounts
variable {counts : FacetCounts} {groups : List GroupCount} {value : String} {count max : Nat}

/-! ### Sums -/

def valuesOf (groups : List GroupCount) : List String := groups.map (·.value)

/-- The sum of the counts that a value has in its groups. -/
def total (groups : List GroupCount) (value : String) : Nat :=
  ((groups.filter fun group => group.value = value).map (·.count)).sum

theorem ofGroups_append_singleton (groups : List GroupCount) (group : GroupCount) :
    ofGroups (groups ++ [group]) = (ofGroups groups).addGroup group := by
  simp [ofGroups, List.foldl_append]

theorem mem_keys_ofGroups : value ∈ (ofGroups groups).keys ↔ value ∈ valuesOf groups := by
  induction groups using List.reverseRecOn with
  | nil => simp [ofGroups, valuesOf, SortedMap.keys, SortedMap.empty]
  | append_singleton groups group ih =>
    rw [ofGroups_append_singleton, addGroup, SortedMap.mem_keys_insert, ih, valuesOf, valuesOf, List.map_append,
      List.mem_append, or_comm]
    simp

theorem getD_ofGroups : ((ofGroups groups).get? value).getD 0 = total groups value := by
  induction groups using List.reverseRecOn with
  | nil => rfl
  | append_singleton groups group ih =>
    rw [ofGroups_append_singleton, addGroup, SortedMap.get?_insert, total, List.filter_append, List.map_append,
      List.sum_append, ← total, ← ih]
    by_cases h : group.value = value <;> simp [h]

theorem get?_ofGroups_eq_some_iff :
    (ofGroups groups).get? value = some count ↔ value ∈ valuesOf groups ∧ count = total groups value := by
  rw [← mem_keys_ofGroups, SortedMap.mem_keys_iff, ← getD_ofGroups]
  constructor
  · intro h
    exact ⟨⟨count, h⟩, by rw [h, Option.getD_some]⟩
  · rintro ⟨⟨count', h⟩, rfl⟩
    rw [h, Option.getD_some]

theorem size_ofGroups (groups : List GroupCount) : (ofGroups groups).size = (valuesOf groups).dedup.length :=
  SortedMap.size_eq_of_mem_keys fun _ => mem_keys_ofGroups

theorem ofGroups_congr {groups' : List GroupCount} (h : groups'.Perm groups) : ofGroups groups' = ofGroups groups := by
  have htotal (value : String) : total groups' value = total groups value :=
    ((h.filter _).map _).sum_nat
  refine SortedMap.ext_get? fun value => Option.ext fun count => ?_
  rw [get?_ofGroups_eq_some_iff, get?_ofGroups_eq_some_iff, htotal, valuesOf, valuesOf, (h.map _).mem_iff]

/-! ### The order of entries -/

section Order
variable {a b c : String × Nat}

theorem ranksBefore_iff : ranksBefore a b = true ↔ b.2 < a.2 ∨ a.2 = b.2 ∧ a.1 ≤ b.1 := by
  simp [ranksBefore]

theorem ranksBefore_trans (hab : ranksBefore a b = true) (hbc : ranksBefore b c = true) :
    ranksBefore a c = true := by
  rw [ranksBefore_iff] at *
  rcases hab with hab | ⟨hab, hle⟩ <;> rcases hbc with hbc | ⟨hbc, hle'⟩
  · exact .inl (Nat.lt_trans hbc hab)
  · exact .inl (hbc ▸ hab)
  · exact .inl (hab ▸ hbc)
  · exact .inr ⟨hab.trans hbc, String.le_trans hle hle'⟩

theorem ranksBefore_total (a b : String × Nat) : (ranksBefore a b || ranksBefore b a) = true := by
  rw [Bool.or_eq_true, ranksBefore_iff, ranksBefore_iff]
  rcases Nat.lt_trichotomy a.2 b.2 with h | h | h
  · exact .inr (.inl h)
  · rcases String.le_total a.1 b.1 with hle | hle
    · exact .inl (.inr ⟨h, hle⟩)
    · exact .inr (.inr ⟨h.symm, hle⟩)
  · exact .inl (.inl h)

theorem ranksBefore_antisymm (hab : ranksBefore a b = true) (hba : ranksBefore b a = true) : a = b := by
  rw [ranksBefore_iff] at *
  rcases hab with hab | ⟨hab, hle⟩ <;> rcases hba with hba | ⟨hba, hle'⟩
  · omega
  · omega
  · omega
  · exact Prod.ext (String.le_antisymm hle hle') hab

/-- The entries of counts with the greatest counts first, and those of equal counts by value. -/
def ranked (counts : FacetCounts) : List (String × Nat) := counts.toList.mergeSort ranksBefore

theorem perm_ranked (counts : FacetCounts) : (ranked counts).Perm counts.toList := List.mergeSort_perm _ _

theorem pairwise_ranked (counts : FacetCounts) : (ranked counts).Pairwise fun a b => ranksBefore a b = true := by
  unfold ranked
  apply List.pairwise_mergeSort
  · intro a b c hab hbc
    exact ranksBefore_trans hab hbc
  · exact ranksBefore_total

/-- Only one list has given entries in this order. -/
theorem ranked_eq_of_perm {entries : List (String × Nat)} (hperm : counts.toList.Perm entries)
    (hpairwise : entries.Pairwise fun a b => ranksBefore a b = true) : ranked counts = entries :=
  ((perm_ranked counts).trans hperm).eq_of_pairwise (fun _ _ _ _ => ranksBefore_antisymm) (pairwise_ranked counts)
    hpairwise

theorem eq_of_ranked_eq {counts' : FacetCounts} (h : ranked counts = ranked counts') : counts = counts' :=
  SortedMap.eq_of_perm ((perm_ranked counts).symm.trans (h ▸ perm_ranked counts'))

end Order

/-! ### The greatest counts -/

theorem perm_toList_truncate (counts : FacetCounts) (max : Nat) :
    (counts.truncate max).toList.Perm ((ranked counts).take max) := by
  have hperm := perm_ranked counts
  unfold truncate
  split
  · next hsize =>
    rw [List.take_of_length_le (by rw [hperm.length_eq]; exact hsize)]
    exact hperm.symm
  · -- The kept entries are some of those of the counts, so no value occurs twice among them.
    have hnodup : ((ranked counts).map Prod.fst).Nodup := (hperm.map Prod.fst).nodup_iff.mpr counts.nodup_keys
    exact SortedMap.perm_toList_ofList (hnodup.sublist ((List.take_sublist _ _).map _))

theorem ranked_truncate (counts : FacetCounts) (max : Nat) : ranked (counts.truncate max) = (ranked counts).take max :=
  ranked_eq_of_perm (perm_toList_truncate counts max) ((pairwise_ranked counts).sublist (List.take_sublist _ _))

theorem size_truncate (counts : FacetCounts) (max : Nat) : (counts.truncate max).size = min counts.size max := by
  have hlength := (perm_toList_truncate counts max).length_eq
  rwa [List.length_take, (perm_ranked counts).length_eq, Nat.min_comm] at hlength

/-- Cutting twice is cutting at the smaller bound. -/
theorem truncate_truncate (counts : FacetCounts) (m n : Nat) :
    (counts.truncate m).truncate n = counts.truncate (min m n) := by
  refine eq_of_ranked_eq ?_
  rw [ranked_truncate, ranked_truncate, ranked_truncate, List.take_take, Nat.min_comm]

theorem mem_of_mem_truncate {entry : String × Nat} (h : entry ∈ (counts.truncate max).toList) :
    entry ∈ counts.toList := by
  rw [(perm_toList_truncate counts max).mem_iff] at h
  exact (perm_ranked counts).mem_iff.mp (List.mem_of_mem_take h)

/-- An entry that is kept comes before one that is not. -/
theorem ranksBefore_of_dropped {kept dropped : String × Nat} (hkept : kept ∈ (counts.truncate max).toList)
    (hmem : dropped ∈ counts.toList) (hdropped : dropped ∉ (counts.truncate max).toList) :
    ranksBefore kept dropped = true := by
  rw [(perm_toList_truncate counts max).mem_iff] at hkept hdropped
  have hpairwise := pairwise_ranked counts
  rw [← (perm_ranked counts).mem_iff] at hmem
  rw [← List.take_append_drop max (ranked counts), List.mem_append] at hmem
  rw [← List.take_append_drop max (ranked counts), List.pairwise_append] at hpairwise
  exact hpairwise.2.2 kept hkept dropped (hmem.resolve_left hdropped)

/-- Counts are those of the values with the greatest sums. -/
structure IsTop (groups : List GroupCount) (max : Nat) (counts : FacetCounts) : Prop where
  sum : ∀ value count, counts.get? value = some count → value ∈ valuesOf groups ∧ count = total groups value
  size : counts.size = min (valuesOf groups).dedup.length max
  greatest : ∀ kept dropped, kept ∈ counts.keys → dropped ∈ valuesOf groups → dropped ∉ counts.keys →
    total groups dropped < total groups kept ∨ total groups dropped = total groups kept ∧ kept < dropped

theorem isTop_truncate (groups : List GroupCount) (max : Nat) :
    IsTop groups max ((ofGroups groups).truncate max) := by
  have htotal (value : String) (count : Nat) (h : ((ofGroups groups).truncate max).get? value = some count) :
      value ∈ valuesOf groups ∧ count = total groups value := by
    have hmem := mem_of_mem_truncate (SortedMap.get?_eq_some_iff.mp h)
    exact get?_ofGroups_eq_some_iff.mp (SortedMap.get?_eq_some_iff.mpr hmem)
  refine ⟨htotal, by rw [size_truncate, size_ofGroups], fun kept dropped hkept hmem hdropped => ?_⟩
  obtain ⟨count, hcount⟩ := SortedMap.mem_keys_iff.mp hkept
  obtain ⟨-, rfl⟩ := htotal kept count hcount
  have hne : kept ≠ dropped := fun heq => hdropped (heq ▸ hkept)
  have hrank : ranksBefore (kept, total groups kept) (dropped, total groups dropped) = true := by
    refine ranksBefore_of_dropped (SortedMap.get?_eq_some_iff.mp hcount) ?_ fun hlisted => ?_
    · exact SortedMap.get?_eq_some_iff.mp (get?_ofGroups_eq_some_iff.mpr ⟨hmem, rfl⟩)
    · exact hdropped (SortedMap.mem_keys_iff.mpr ⟨_, SortedMap.get?_eq_some_iff.mpr hlisted⟩)
  rcases ranksBefore_iff.mp hrank with hlt | ⟨heq, hle⟩
  · exact .inl hlt
  · exact .inr ⟨heq.symm, Std.lt_of_le_of_ne hle hne⟩

end FacetCounts

/-! ### Counting the values of a field -/

namespace FacetSettings
variable {σ E : Type}

/-- The query for the groups of a field, with its attempts. -/
def askGroups (settings : FacetSettings σ E) (base : Request) (query field : String) : Act σ Response :=
  settings.retry.run "facet" (settings.host.queryAct (base.forFacet field settings.maxFacets) query)

theorem count_eq (settings : FacetSettings σ E) (base : Request) (query field : String) (world : World σ) :
    outcome (settings.count base query field) world =
      (outcome (settings.askGroups base query field) world).map
        (fun response => (FacetCounts.ofGroups response.groups).truncate settings.maxFacets) ∧
    after (settings.count base query field) world = after (settings.askGroups base query field) world :=
  bind_pure_eq

/-- Counting the values of a field fails as the query does. Otherwise it gives those with the greatest sums, whichever
    way the groups of the reply are ordered. Cutting counts twice is cutting them at the smaller bound. -/
theorem count_isTop (settings : FacetSettings σ E) (base : Request) (query field : String) (world : World σ) :
    let ask := settings.askGroups base query field
    let count := settings.count base query field
    (∀ error, outcome ask world = .error error → outcome count world = .error error) ∧
    (∀ response, outcome ask world = .ok response → ∃ counts, outcome count world = .ok counts ∧
      FacetCounts.IsTop response.groups settings.maxFacets counts ∧
      ∀ world' response', outcome ask world' = .ok response' → response'.groups.Perm response.groups →
        outcome count world' = .ok counts) ∧
    ∀ (counts : FacetCounts) (m n : Nat), (counts.truncate m).truncate n = counts.truncate (min m n) := by
  intro ask count
  have hcount (world : World σ) := (settings.count_eq base query field world).1
  refine ⟨fun error herror => ?_, fun response hresponse => ⟨_, ?_, FacetCounts.isTop_truncate _ _, ?_⟩,
    FacetCounts.truncate_truncate⟩
  · rw [hcount, herror, Except.map]
  · rw [hcount, hresponse, Except.map]
  · intro world' response' hresponse' hperm
    rw [hcount, hresponse', Except.map, FacetCounts.ofGroups_congr hperm]

/-- The colors in the order in which the daemon gives them. Two of them are equally frequent. -/
def colorGroups : List GroupCount := [⟨"red", 3⟩, ⟨"green", 9⟩, ⟨"red", 4⟩, ⟨"blue", 7⟩]

/-- A host whose daemon gives the colors in one order or in the other. -/
def tiedColors : Host Bool Unit where
  query _ _ turned := (.ok { groups := if turned then colorGroups.reverse else colorGroups }, turned)
  buildExcerpts call turned := (.ok call.texts, turned)
  resolveCached _ _ turned := (none, turned)
  resolve _ keys turned := (.ok (keys.map fun _ => none), turned)
  field? _ _ := none

theorem truncate_colorGroups : (FacetCounts.ofGroups colorGroups).truncate 2 = .ofList [("green", 9), ("blue", 7)] := by
  have hranked : FacetCounts.ranked (.ofGroups colorGroups) = [("green", 9), ("blue", 7), ("red", 7)] :=
    FacetCounts.ranked_eq_of_perm (by decide) (by decide)
  unfold FacetCounts.ranked at hranked
  rw [FacetCounts.truncate, if_neg (by decide), hranked]
  rfl

theorem count_isTop_tiedColors :
    let count := (⟨tiedColors, ⟨0, 0⟩, 2⟩ : FacetSettings Bool Unit).count {} "dog" "color"
    ∃ counts, outcome count { host := false } = .ok counts ∧ counts.toList = [("blue", 7), ("green", 9)] ∧
      outcome count { host := true } = .ok counts := by
  intro count
  obtain ⟨-, h, -⟩ := count_isTop (⟨tiedColors, ⟨0, 0⟩, 2⟩ : FacetSettings Bool Unit) {} "dog" "color"
    { host := false }
  obtain ⟨counts, hcounts, -, hturned⟩ := h _ rfl
  have hlisted : counts = .ofList [("green", 9), ("blue", 7)] :=
    (Except.ok.inj hcounts).symm.trans truncate_colorGroups
  refine ⟨counts, hcounts, ?_, hturned { host := true } _ rfl (List.reverse_perm _)⟩
  rw [hlisted]
  decide

end FacetSettings
end SearchClient
