import Mathlib.Data.List.Perm.Subperm
import Mathlib.Data.Prod.Basic
import SearchClient.ClassMap.Reader
import SearchClient.Proofs.SortedMap

/-! When the two directions of a mapping agree. A mapping is filled pair by pair and each direction keeps the
    last pair with a name or with an id, so a repeated name or id makes them disagree; what a daemon
    configuration declares is refused only if the names and the ids repeat differently often. -/

namespace SearchClient.ClassMap
open Text

/-- The two directions of a mapping agree. -/
def Consistent (map : ClassMap) : Prop := ∀ name id, map.idOf? name = some id ↔ map.nameOf? id = some name

/-! ### Mappings made from pairs -/

section Pairs
variable {pairs : List (String × UInt32)}

theorem ofPairs_append_singleton (pairs : List (String × UInt32)) (pair : String × UInt32) :
    ofPairs (pairs ++ [pair]) = (ofPairs pairs).insert pair.1 pair.2 := by
  simp [ofPairs, List.foldl_append]

theorem byName_ofPairs (pairs : List (String × UInt32)) : (ofPairs pairs).byName = SortedMap.ofList pairs := by
  induction pairs using List.reverseRecOn with
  | nil => rfl
  | append_singleton pairs pair ih =>
    rw [ofPairs_append_singleton, SortedMap.ofList_append_singleton, ← ih, insert]

theorem byId_ofPairs (pairs : List (String × UInt32)) :
    (ofPairs pairs).byId = SortedMap.ofList (pairs.map Prod.swap) := by
  induction pairs using List.reverseRecOn with
  | nil => rfl
  | append_singleton pairs pair ih =>
    rw [ofPairs_append_singleton, List.map_append, List.map_singleton, SortedMap.ofList_append_singleton, ← ih]
    rfl

theorem idOf?_ofPairs {name : String} {id : UInt32} :
    (ofPairs pairs).idOf? name = some id ↔ IsLastBy Prod.fst pairs (name, id) := by
  rw [idOf?, byName_ofPairs, SortedMap.get?_ofList_eq_some_iff]

theorem nameOf?_ofPairs {name : String} {id : UInt32} :
    (ofPairs pairs).nameOf? id = some name ↔ IsLastBy Prod.snd pairs (name, id) := by
  rw [nameOf?, byId_ofPairs, SortedMap.get?_ofList_eq_some_iff]
  exact IsLastBy.map_iff (e := (name, id)) Prod.swap_injective

theorem size_byName_ofPairs (pairs : List (String × UInt32)) :
    (ofPairs pairs).byName.size = (pairs.map Prod.fst).dedup.length := by
  rw [byName_ofPairs, SortedMap.size_ofList]

theorem size_byId_ofPairs (pairs : List (String × UInt32)) :
    (ofPairs pairs).byId.size = (pairs.map Prod.snd).dedup.length := by
  rw [byId_ofPairs, SortedMap.size_ofList, List.map_map]
  rfl

theorem size_ofPairs_zip {names : List String} {ids : List UInt32} (h : names.length = ids.length) :
    (ofPairs (names.zip ids)).byName.size = names.dedup.length ∧
      (ofPairs (names.zip ids)).byId.size = ids.dedup.length := by
  rw [size_byName_ofPairs, size_byId_ofPairs, List.map_fst_zip (Nat.le_of_eq h),
    List.map_snd_zip (Nat.le_of_eq h.symm)]
  exact ⟨rfl, rfl⟩

end Pairs

/-! ### Listing the pairs -/

section List
variable {map : ClassMap} {name : String} {id : UInt32}

theorem mem_toList : (name, id) ∈ map.toList ↔ map.nameOf? id = some name := by
  simp [toList, nameOf?, SortedMap.get?_eq_some_iff, SortedMap.toList]

theorem pairwise_toList (map : ClassMap) : map.toList.Pairwise (·.2 < ·.2) :=
  map.byId.sorted.map _ fun _ _ h => h

/-- The last of the class ids that an entity type has. -/
def IsLastId (map : ClassMap) (name : String) (id : UInt32) : Prop :=
  map.nameOf? id = some name ∧ ∀ id', map.nameOf? id' = some name → id' ≤ id

theorem isLastBy_toList_iff : IsLastBy Prod.fst map.toList (name, id) ↔ map.IsLastId name id := by
  constructor
  · intro h
    refine ⟨mem_toList.mp h.mem, fun id' hid' => ?_⟩
    obtain ⟨before, after, heq, hafter⟩ := h
    have hmem := mem_toList.mpr hid'
    have hsorted := map.pairwise_toList
    rw [heq] at hmem hsorted
    rcases List.mem_append.mp hmem with hbefore | hrest
    · exact Nat.le_of_lt ((List.pairwise_append.mp hsorted).2.2 _ hbefore (name, id) (List.mem_cons_self ..))
    · rcases List.mem_cons.mp hrest with heq | hmem
      · exact Nat.le_of_eq (congrArg (fun pair => pair.2.toNat) heq)
      · exact absurd rfl (hafter (name, id') hmem)
  · rintro ⟨hid, hlast⟩
    obtain ⟨before, after, heq⟩ := List.append_of_mem (mem_toList.mpr hid)
    refine ⟨before, after, heq, ?_⟩
    rintro ⟨name', id'⟩ hpair rfl
    have hsorted := map.pairwise_toList
    have hmem : (name', id') ∈ map.toList := by
      rw [heq]
      simp [hpair]
    rw [heq] at hsorted
    have hlt : id < id' := (List.pairwise_cons.mp (List.pairwise_append.mp hsorted).2.1).1 _ hpair
    exact absurd hlt (UInt32.not_lt.mpr (hlast id' (mem_toList.mp hmem)))

end List

/-! ### Consistency -/

/-- Of two directions of one size, each says what the other does as soon as one of them does. -/
theorem consistent_of_size {map : ClassMap} (hsize : map.byName.size = map.byId.size)
    (h : ∀ name id, map.idOf? name = some id → map.nameOf? id = some name) : map.Consistent := by
  have hnodup : (map.byName.entries.map Prod.swap).Nodup :=
    (List.Nodup.of_map _ map.byName.nodup_keys).map Prod.swap_injective
  have hsubset : map.byName.entries.map Prod.swap ⊆ map.byId.entries := fun entry hentry => by
    obtain ⟨⟨name, id⟩, hmem, rfl⟩ := List.mem_map.mp hentry
    exact SortedMap.get?_eq_some_iff.mp (h name id (SortedMap.get?_eq_some_iff.mpr hmem))
  -- The swapped entries stand in the other direction; since they are as many, they are all of it.
  have hperm : (map.byName.entries.map Prod.swap).Perm map.byId.entries := by
    refine (hnodup.subperm hsubset).perm_of_length_le ?_
    rw [List.length_map]
    exact Nat.le_of_eq hsize.symm
  refine fun name id => ⟨h name id, fun hname => ?_⟩
  obtain ⟨⟨name', id'⟩, hmem, heq⟩ :=
    List.mem_map.mp (hperm.mem_iff.mpr (SortedMap.get?_eq_some_iff.mp hname))
  obtain ⟨rfl, rfl⟩ := Prod.mk.inj heq
  exact SortedMap.get?_eq_some_iff.mpr hmem

theorem consistent_ofPairs_iff {pairs : List (String × UInt32)}
    (hsize : (pairs.map Prod.fst).dedup.length = (pairs.map Prod.snd).dedup.length) :
    (ofPairs pairs).Consistent ↔ ∀ pair, IsLastBy Prod.fst pairs pair → IsLastBy Prod.snd pairs pair := by
  constructor
  · intro h pair hlast
    exact nameOf?_ofPairs.mp ((h _ _).mp (idOf?_ofPairs.mpr hlast))
  · intro h
    refine consistent_of_size ?_ fun name id hid => nameOf?_ofPairs.mpr (h _ (idOf?_ofPairs.mp hid))
    rw [size_byName_ofPairs, size_byId_ofPairs, hsize]

theorem consistent_ofPairs_of_nodup {pairs : List (String × UInt32)} (hnames : (pairs.map Prod.fst).Nodup)
    (hids : (pairs.map Prod.snd).Nodup) : (ofPairs pairs).Consistent := fun name id => by
  rw [idOf?_ofPairs, nameOf?_ofPairs]
  exact ⟨fun h => .of_nodup hids h.mem, fun h => .of_nodup hnames h.mem⟩

/-! ### Mappings that daemon configurations declare -/

/-- The names of entity types and the class ids that a text declares, each in their order. -/
def declared (contents : String) : Except Fault (List String × List UInt32) :=
  (declarations ((lines contents.toList).map trimStart)).map fun (names, ids) =>
    (names.map fun name => String.ofList (classifyText name), ids)

section Reader
variable {contents : String} {names : List String} {ids : List UInt32}

theorem ofText_of_declared_error {fault : Fault} (h : declared contents = .error fault) :
    ofText contents = .error fault := by
  unfold declared at h
  unfold ofText ofLines
  cases hread : declarations ((lines contents.toList).map trimStart) with
  | error fault' =>
    rw [hread] at h
    obtain rfl := Except.error.inj h
    rfl
  | ok read =>
    rw [hread] at h
    cases h

/-- Names and class ids that are equally many are refused only if they repeat differently often. -/
theorem ofText_of_declared (h : declared contents = .ok (names, ids)) :
    ofText contents =
      if names.length ≠ ids.length then .error (.countMismatch names.length ids.length)
      else if names.dedup.length ≠ ids.dedup.length then .error .duplicates
      else .ok (ofPairs (names.zip ids)) := by
  unfold declared at h
  unfold ofText ofLines
  cases hread : declarations ((lines contents.toList).map trimStart) with
  | error fault =>
    rw [hread] at h
    cases h
  | ok read =>
    rw [hread] at h
    obtain ⟨rfl, rfl⟩ := Prod.mk.inj (Except.ok.inj h)
    rw [List.length_map]
    show (if read.1.length ≠ read.2.length then _ else _) = _
    by_cases hlength : read.1.length ≠ read.2.length
    · rw [if_pos hlength, if_pos hlength]
      rfl
    · rw [if_neg hlength, if_neg hlength]
      have hnames : (read.1.map fun name => String.ofList (classifyText name)).length = read.2.length := by
        rw [List.length_map, not_not.mp hlength]
      rw [← (size_ofPairs_zip hnames).1, ← (size_ofPairs_zip hnames).2]
      rfl

theorem ofText_eq_ok_of_declared {map : ClassMap} (h : declared contents = .ok (names, ids)) :
    ofText contents = .ok map ↔
      names.length = ids.length ∧ names.dedup.length = ids.dedup.length ∧ ofPairs (names.zip ids) = map := by
  rw [ofText_of_declared h]
  by_cases hlength : names.length = ids.length
  · by_cases hdedup : names.dedup.length = ids.dedup.length <;> simp [hlength, hdedup]
  · simp [hlength]

theorem ofText_eq_ok_iff {map : ClassMap} :
    ofText contents = .ok map ↔
      ∃ names ids, declared contents = .ok (names, ids) ∧ names.length = ids.length ∧
        names.dedup.length = ids.dedup.length ∧ ofPairs (names.zip ids) = map := by
  constructor
  · intro hmap
    cases hread : declared contents with
    | error fault =>
      rw [ofText_of_declared_error hread] at hmap
      cases hmap
    | ok read => exact ⟨read.1, read.2, rfl, (ofText_eq_ok_of_declared hread).mp hmap⟩
  · rintro ⟨names, ids, hread, h⟩
    exact (ofText_eq_ok_of_declared hread).mpr h

/-- Of as many names as class ids, with as many different ones, either both repeat something or none does. -/
theorem nodup_ids_of_nodup_names (hlength : names.length = ids.length)
    (hdedup : names.dedup.length = ids.dedup.length) (hnames : names.Nodup) : ids.Nodup := by
  rw [hnames.dedup, hlength] at hdedup
  exact List.dedup_eq_self.mp ((List.dedup_sublist ids).eq_of_length hdedup.symm)

theorem consistent_iff_of_ofText_eq_ok {map : ClassMap} (hdeclared : declared contents = .ok (names, ids))
    (hmap : ofText contents = .ok map) :
    map.Consistent ↔ ∀ pair, IsLastBy Prod.fst (names.zip ids) pair → IsLastBy Prod.snd (names.zip ids) pair := by
  obtain ⟨hlength, hdedup, rfl⟩ := (ofText_eq_ok_of_declared hdeclared).mp hmap
  refine consistent_ofPairs_iff ?_
  rw [List.map_fst_zip (Nat.le_of_eq hlength), List.map_snd_zip (Nat.le_of_eq hlength.symm), hdedup]

/-- A text gives a consistent mapping or, if it repeats a name or a class id, none, exactly if it does not repeat
    names and class ids equally often. -/
theorem consistent_and_refused_iff : ((∀ map, ofText contents = .ok map → map.Consistent) ∧
      ∀ names ids, declared contents = .ok (names, ids) → ¬names.Nodup ∨ ¬ids.Nodup →
        ∃ fault, ofText contents = .error fault) ↔
    ∀ names ids, declared contents = .ok (names, ids) → names.length = ids.length →
      names.dedup.length = ids.dedup.length → names.Nodup := by
  constructor
  · rintro ⟨-, hrefused⟩ names ids hdeclared hlength hdedup
    by_contra hnames
    obtain ⟨fault, hfault⟩ := hrefused names ids hdeclared (.inl hnames)
    rw [(ofText_eq_ok_of_declared hdeclared).mpr ⟨hlength, hdedup, rfl⟩] at hfault
    cases hfault
  · refine fun h => ⟨fun map hmap => ?_, fun names ids hdeclared hrepeats => ?_⟩
    · obtain ⟨names, ids, hdeclared, hlength, hdedup, rfl⟩ := ofText_eq_ok_iff.mp hmap
      have hnames := h names ids hdeclared hlength hdedup
      have hids := nodup_ids_of_nodup_names hlength hdedup hnames
      refine consistent_ofPairs_of_nodup ?_ ?_
      · rwa [List.map_fst_zip (Nat.le_of_eq hlength)]
      · rwa [List.map_snd_zip (Nat.le_of_eq hlength.symm)]
    · cases hread : ofText contents with
      | error fault => exact ⟨fault, rfl⟩
      | ok map =>
        obtain ⟨hlength, hdedup, -⟩ := (ofText_eq_ok_of_declared hdeclared).mp hread
        have hnames := h names ids hdeclared hlength hdedup
        have hids := nodup_ids_of_nodup_names hlength hdedup hnames
        exact absurd hrepeats (not_or.mpr ⟨not_not.mpr hnames, not_not.mpr hids⟩)

end Reader

/-- A text is accepted exactly if it declares as many names as class ids and as many different ones. Its mapping
    is consistent exactly if the last pair with each name is the last one with its class id. All accepted
    mappings are consistent and no text with a repeated name or class id is accepted, exactly if names do not
    repeat where they repeat as often as class ids do. -/
theorem ofText_consistent_iff (contents : String) :
    (∀ map, ofText contents = .ok map ↔
      ∃ names ids, declared contents = .ok (names, ids) ∧ names.length = ids.length ∧
        names.dedup.length = ids.dedup.length ∧ ofPairs (names.zip ids) = map) ∧
    (∀ names ids map, declared contents = .ok (names, ids) → ofText contents = .ok map →
      (map.Consistent ↔
        ∀ pair, IsLastBy Prod.fst (names.zip ids) pair → IsLastBy Prod.snd (names.zip ids) pair)) ∧
    (((∀ map, ofText contents = .ok map → map.Consistent) ∧
        ∀ names ids, declared contents = .ok (names, ids) → ¬names.Nodup ∨ ¬ids.Nodup →
          ∃ fault, ofText contents = .error fault) ↔
      ∀ names ids, declared contents = .ok (names, ids) → names.length = ids.length →
        names.dedup.length = ids.dedup.length → names.Nodup) :=
  ⟨fun _ => ofText_eq_ok_iff, fun _ _ _ => consistent_iff_of_ofText_eq_ok, consistent_and_refused_iff⟩

/-- Three sources, of which the first two share a name and the last two a class id. -/
def threeSources : String :=
  "source sellers\n  sql_query = SELECT 0 AS class_id\n" ++
  "source sellers\n  sql_query = SELECT 1 AS class_id\n" ++
  "source states\n  sql_query = SELECT 1 AS class_id\n"

theorem ofText_threeSources : ∃ map, ofText threeSources = .ok map ∧ map.idOf? "Seller" = some 1 ∧
    map.nameOf? 1 = some "State" ∧ ¬map.Consistent := by
  have hmap : ((ofText threeSources).toOption.map fun map => (map.idOf? "Seller", map.nameOf? 1)) =
      some (some 1, some "State") := by decide +kernel
  cases hread : ofText threeSources with
  | error fault =>
    rw [hread] at hmap
    cases hmap
  | ok map =>
    rw [hread] at hmap
    obtain ⟨hid, hname⟩ := Prod.mk.inj (Option.some.inj hmap)
    refine ⟨map, rfl, hid, hname, fun h => ?_⟩
    rw [(h _ _).mp hid] at hname
    exact absurd hname (by decide)

end SearchClient.ClassMap
