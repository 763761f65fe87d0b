import Mathlib.Data.FinEnum
import SearchClient.Proofs.ClassMap
import SearchClient.Proofs.Reported
import SearchClient.Search.Hit

/-! What document ids tell. A document id holds a class id as the remainder of a division by the number of entity
    types, so it gives back class ids below that number only. A match is mapped exactly if its document id holds its
    own class id and an entity type has this; it is the match of a record if the two directions of the mapping agree
    on the entity type. -/

namespace SearchClient

/-! ### Document ids -/

namespace DocumentIdCodec
variable {codec : DocumentIdCodec} {documentId key : Nat} {id : UInt32}

theorem decode?_eq_some_iff : codec.decode? documentId = some (id, key) ↔
    codec.multiplier ≠ 0 ∧ documentId % codec.multiplier = id.toNat ∧ documentId / codec.multiplier = key := by
  unfold decode?
  by_cases hzero : codec.multiplier = 0
  · simp [hzero]
  rw [if_neg hzero]
  dsimp only
  constructor
  · intro h
    split at h
    · next hfits =>
      obtain ⟨rfl, rfl⟩ := Prod.mk.inj (Option.some.inj h)
      exact ⟨hzero, (UInt32.toNat_ofNat_of_lt' hfits).symm, rfl⟩
    · cases h
  · rintro ⟨-, hclass, rfl⟩
    rw [hclass, if_pos id.toNat_lt, UInt32.ofNat_toNat]

theorem decode?_eq_none_iff : codec.decode? documentId = none ↔
    codec.multiplier = 0 ∨ UInt32.size ≤ documentId % codec.multiplier := by
  unfold decode?
  by_cases hzero : codec.multiplier = 0 <;> simp [hzero]

/-- A document id is made from its own remainder and quotient. -/
theorem encode_div (h : documentId % codec.multiplier = id.toNat) :
    codec.encode id (documentId / codec.multiplier) = documentId := by
  rw [encode, ← h]
  exact Nat.div_add_mod' documentId codec.multiplier

/-- A document id gives back what it was made from exactly if the class id is below the multiplier. -/
theorem decode?_encode_iff : codec.decode? (codec.encode id key) = some (id, key) ↔ id.toNat < codec.multiplier := by
  rw [decode?_eq_some_iff, encode, Nat.mul_add_mod_self_right]
  constructor
  · rintro ⟨hzero, hclass, -⟩
    rw [← hclass]
    exact Nat.mod_lt _ (Nat.pos_of_ne_zero hzero)
  · intro hlt
    have hpos : 0 < codec.multiplier := Nat.zero_lt_of_lt hlt
    refine ⟨Nat.ne_of_gt hpos, Nat.mod_eq_of_lt hlt, ?_⟩
    rw [Nat.mul_comm, Nat.mul_add_div hpos, Nat.div_eq_of_lt hlt, Nat.add_zero]

/-- Neither the product nor the sum that a document id is made by leaves 64 bits. -/
def Fits (codec : DocumentIdCodec) (id : UInt32) (key : Nat) : Prop :=
  key * codec.multiplier < 2 ^ 64 ∧ codec.encode id key < 2 ^ 64

theorem fits_iff : codec.Fits id key ↔ codec.encode id key < 2 ^ 64 := by
  have hle : key * codec.multiplier ≤ codec.encode id key := Nat.le_add_right _ _
  exact and_iff_right_of_imp fun hfits => Nat.lt_of_le_of_lt hle hfits

theorem encode_of_decode? (h : codec.decode? documentId = some (id, key)) :
    id.toNat < codec.multiplier ∧ codec.encode id key = documentId := by
  obtain ⟨hzero, hclass, rfl⟩ := decode?_eq_some_iff.mp h
  refine ⟨?_, encode_div hclass⟩
  rw [← hclass]
  exact Nat.mod_lt _ (Nat.pos_of_ne_zero hzero)

/-- Each document id but those without a class id is made of one class id below the multiplier and one key, and gives
    these back. Made of a class id that is not below the multiplier, it gives back something else. -/
theorem encode_bijOn (codec : DocumentIdCodec) :
    (∀ documentId, codec.decode? documentId = none ↔
      codec.multiplier = 0 ∨ 2 ^ 32 - 1 < documentId % codec.multiplier) ∧
    (∀ documentId < 2 ^ 64, ∀ id key, codec.decode? documentId = some (id, key) →
      id.toNat < codec.multiplier ∧ codec.encode id key = documentId ∧ codec.Fits id key) ∧
    (∀ id key, codec.Fits id key → 0 < codec.multiplier →
      (codec.decode? (codec.encode id key) = some (id, key) ↔ id.toNat < codec.multiplier)) ∧
    Set.BijOn (fun pair : UInt32 × Nat => codec.encode pair.1 pair.2)
      {pair | pair.1.toNat < codec.multiplier ∧ codec.Fits pair.1 pair.2}
      {documentId | documentId < 2 ^ 64 ∧ (codec.decode? documentId).isSome} := by
  refine ⟨fun documentId => decode?_eq_none_iff, fun documentId hfits id key h => ?_,
    fun id key _ _ => decode?_encode_iff, ?_, ?_, ?_⟩
  · obtain ⟨hlt, rfl⟩ := encode_of_decode? h
    exact ⟨hlt, rfl, fits_iff.mpr hfits⟩
  · rintro ⟨id, key⟩ ⟨hlt, hfits⟩
    exact ⟨hfits.2, Option.isSome_iff_exists.mpr ⟨_, decode?_encode_iff.mpr hlt⟩⟩
  · -- Decoding undoes encoding, so two pairs with one document id are both what it gives back.
    rintro ⟨id, key⟩ ⟨hlt, -⟩ ⟨id', key'⟩ ⟨hlt', -⟩ heq
    have hpair : codec.decode? (codec.encode id key) = some (id', key') :=
      (congrArg codec.decode? heq).trans (decode?_encode_iff.mpr hlt')
    exact Option.some.inj ((decode?_encode_iff.mpr hlt).symm.trans hpair)
  · rintro documentId ⟨hfits, hsome⟩
    obtain ⟨⟨id, key⟩, hdecoded⟩ := Option.isSome_iff_exists.mp hsome
    obtain ⟨hlt, rfl⟩ := encode_of_decode? hdecoded
    exact ⟨(id, key), ⟨hlt, fits_iff.mpr hfits⟩, rfl⟩

/-- Among three entity types, the class id 4 is read back as 1. -/
theorem encode_bijOn_three :
    let codec : DocumentIdCodec := ⟨3⟩
    codec.decode? 16 = some (1, 5) ∧ codec.encode 1 5 = 16 ∧
    codec.Fits 4 5 ∧ codec.decode? (codec.encode 4 5) = some (1, 6) ∧
    codec.decode? (codec.encode 4 5) ≠ some (4, 5) := by
  intro codec
  obtain ⟨-, hdecode, hencode, -⟩ := encode_bijOn codec
  have hdecoded : codec.decode? 16 = some (1, 5) := by decide
  have hfits : codec.Fits 4 5 := ⟨by decide, by decide⟩
  refine ⟨hdecoded, (hdecode 16 (by decide) 1 5 hdecoded).2.1, hfits, by decide, ?_⟩
  exact mt (hencode 4 5 hfits (by decide)).mp (by decide)

end DocumentIdCodec

namespace ClassMap
variable {map : ClassMap} {m : RawMatch}

/-! ### Matches -/

/-- There are no more entity types than class ids. -/
theorem size_le (map : ClassMap) : map.size ≤ UInt32.size := by
  have hcard := map.byId.nodup_keys.length_le_card
  rwa [← FinEnum.card_eq_fintypeCard, FinEnum.card_UInt32, SortedMap.keys, List.length_map] at hcard

/-- The record of a match whose document id holds its class id, if an entity type has this. -/
def recordOf? (map : ClassMap) (m : RawMatch) : Option EntityRef :=
  if map.size ≠ 0 ∧ m.documentId % map.size = m.classId.toNat then
    (map.nameOf? m.classId).map fun name => ⟨name, m.documentId / map.size⟩
  else none

/-- What is reported on a match without a record. -/
inductive Drops (map : ClassMap) (m : RawMatch) : Diagnostic → Prop
  | nothingMapped : map.size = 0 → Drops map m (.nothingMapped m.documentId)
  | classDisagrees {decoded : UInt32} : map.size ≠ 0 → m.documentId % map.size = decoded.toNat →
      decoded ≠ m.classId → Drops map m (.classDisagrees m.documentId decoded m.classId)
  | classUnmapped : map.size ≠ 0 → m.documentId % map.size = m.classId.toNat → map.nameOf? m.classId = none →
      Drops map m (.classUnmapped m.classId)

theorem recordOf?_eq_some_iff {ref : EntityRef} : map.recordOf? m = some ref ↔
    map.codec.decode? m.documentId = some (m.classId, ref.primaryKey) ∧
      map.nameOf? m.classId = some ref.className := by
  rw [DocumentIdCodec.decode?_eq_some_iff]
  unfold recordOf?
  constructor
  · intro h
    split at h
    · next hclass =>
      obtain ⟨name, hname, rfl⟩ := Option.map_eq_some_iff.mp h
      exact ⟨⟨hclass.1, hclass.2, rfl⟩, hname⟩
    · cases h
  · rintro ⟨⟨hmapped, hclass, hkey⟩, hname⟩
    rw [if_pos ⟨hmapped, hclass⟩, hname]
    exact congrArg (fun key => some (EntityRef.mk ref.className key)) hkey

/-- A match gives its record, or one report. -/
theorem refOf_cases (map : ClassMap) (m : RawMatch) :
    (∃ ref, map.recordOf? m = some ref ∧ map.refOf m = pure (some ref)) ∨
      map.recordOf? m = none ∧ ∃ d, map.Drops m d ∧ map.refOf m = ⟨none, [d]⟩ := by
  unfold refOf
  cases hdecoded : map.codec.decode? m.documentId with
  | none =>
    -- The remainder fits 32 bits, since there are no more entity types.
    have hzero : map.size = 0 := by
      rcases DocumentIdCodec.decode?_eq_none_iff.mp hdecoded with hzero | hbeyond
      · exact hzero
      · by_contra hzero
        have hlt := Nat.mod_lt m.documentId (Nat.pos_of_ne_zero hzero)
        exact absurd (Nat.lt_of_lt_of_le hlt map.size_le) (Nat.not_lt.mpr hbeyond)
    exact .inr ⟨if_neg fun h => h.1 hzero, _, .nothingMapped hzero, rfl⟩
  | some decoded =>
    obtain ⟨classId, key⟩ := decoded
    obtain ⟨hmapped, hclass, -⟩ := DocumentIdCodec.decode?_eq_some_iff.mp hdecoded
    dsimp only
    by_cases hagrees : classId = m.classId
    · subst hagrees
      rw [if_neg (not_not.mpr rfl)]
      cases hname : map.nameOf? m.classId with
      | none =>
        have hrecord : map.recordOf? m = none := by rw [recordOf?, if_pos ⟨hmapped, hclass⟩, hname, Option.map_none]
        exact .inr ⟨hrecord, _, .classUnmapped hmapped hclass hname, rfl⟩
      | some name => exact .inl ⟨⟨name, key⟩, recordOf?_eq_some_iff.mpr ⟨hdecoded, hname⟩, rfl⟩
    · rw [if_pos hagrees]
      have hrecord : map.recordOf? m = none :=
        if_neg fun h => hagrees (UInt32.toNat_inj.mp (hclass.symm.trans h.2))
      exact .inr ⟨hrecord, _, .classDisagrees hmapped hclass hagrees, rfl⟩

theorem value_refOf (map : ClassMap) (m : RawMatch) : (map.refOf m).value = map.recordOf? m := by
  rcases map.refOf_cases m with ⟨ref, hrecord, href⟩ | ⟨hrecord, d, -, href⟩
  · rw [hrecord, href, Reported.value_pure]
  · rw [hrecord, href]

theorem drops_diagnostics_refsOf (map : ClassMap) : ∀ matched : List RawMatch,
    List.Forall₂ map.Drops (matched.filter fun m => (map.recordOf? m).isNone) (map.refsOf matched).diagnostics
  | [] => .nil
  | m :: matched => by
    have ih := map.drops_diagnostics_refsOf matched
    rw [refsOf, Reported.diagnostics_filterMap] at ih ⊢
    rw [List.flatMap_cons]
    rcases map.refOf_cases m with ⟨ref, hrecord, href⟩ | ⟨hrecord, d, hdrops, href⟩
    · rw [List.filter_cons_of_neg (by simp [hrecord]), href]
      exact ih
    · rw [List.filter_cons_of_pos (by simp [hrecord]), href]
      exact .cons hdrops ih

/-- Matches are mapped one by one and in order: those with a record to the record, from which their document id is
    made again, and each other one to one report. -/
theorem refsOf_exact (map : ClassMap) (matched : List RawMatch) :
    (map.refsOf matched).value = matched.filterMap map.recordOf? ∧
    List.Forall₂ map.Drops (matched.filter fun m => (map.recordOf? m).isNone) (map.refsOf matched).diagnostics ∧
    (∀ m ref, map.recordOf? m = some ref → map.codec.encode m.classId ref.primaryKey = m.documentId) ∧
    ∀ more, (map.refsOf (matched ++ more)).value = (map.refsOf matched).value ++ (map.refsOf more).value ∧
      (map.refsOf (matched ++ more)).diagnostics =
        (map.refsOf matched).diagnostics ++ (map.refsOf more).diagnostics := by
  refine ⟨?_, map.drops_diagnostics_refsOf matched, fun m ref href => ?_, fun more => ⟨?_, ?_⟩⟩
  · rw [refsOf, Reported.value_filterMap, funext map.value_refOf]
  · obtain ⟨-, hclass, hkey⟩ := DocumentIdCodec.decode?_eq_some_iff.mp (recordOf?_eq_some_iff.mp href).1
    rw [← hkey]
    exact DocumentIdCodec.encode_div hclass
  · simp only [refsOf, Reported.value_filterMap, List.filterMap_append]
  · simp only [refsOf, Reported.diagnostics_filterMap, List.flatMap_append]

/-! ### Records -/

/-- A match is that of a record: it has the class id of the entity type, and the document id that is made from this and
    the primary key, in 64 bits. -/
structure Stores (map : ClassMap) (m : RawMatch) (ref : EntityRef) : Prop where
  idOf? : map.idOf? ref.className = some m.classId
  documentId : m.documentId = map.codec.encode m.classId ref.primaryKey
  fits : m.documentId < UInt64.size

/-- The match of a record is mapped to it exactly if its class id is below the number of entity types and stands for
    the entity type. -/
theorem Stores.value_refOf_iff {ref : EntityRef} (h : map.Stores m ref) :
    (map.refOf m).value = some ref ↔ m.classId.toNat < map.size ∧ map.nameOf? m.classId = some ref.className := by
  rw [value_refOf, recordOf?_eq_some_iff, h.documentId, DocumentIdCodec.decode?_encode_iff]
  rfl

theorem value_refsOf_cons (m : RawMatch) (matched : List RawMatch) :
    (map.refsOf (m :: matched)).value = (map.refOf m).value.toList ++ (map.refsOf matched).value := rfl

/-- The matches of records are mapped to these records, whichever they are, exactly if all class ids are below the
    number of entity types and stand for the entity types that have them. -/
theorem value_refsOf_iff : (∀ matched refs, List.Forall₂ map.Stores matched refs → (map.refsOf matched).value = refs) ↔
    ∀ name id, map.idOf? name = some id → id.toNat < map.size ∧ map.nameOf? id = some name := by
  constructor
  · intro h name id hid
    -- The record with the primary key zero, whose document id is the class id.
    have hstores : map.Stores ⟨id.toNat, id, 0⟩ ⟨name, 0⟩ :=
      ⟨hid, by simp [DocumentIdCodec.encode], Nat.lt_trans id.toNat_lt (by decide)⟩
    have hvalue := h [_] [_] (.cons hstores .nil)
    rw [value_refsOf_cons] at hvalue
    refine hstores.value_refOf_iff.mp ?_
    simpa [refsOf, Reported.filterMap, Option.toList_eq_singleton_iff] using hvalue
  · intro h matched refs hstored
    induction hstored with
    | nil => rfl
    | cons hstores _ ih =>
      rw [value_refsOf_cons, ih, hstores.value_refOf_iff.mpr (h _ _ hstores.idOf?)]
      rfl

/-- The two directions of an accepted mapping agree as soon as each class id stands for every name that has it. -/
theorem consistent_of_ofText {contents : String} (h : ofText contents = .ok map)
    (hnames : ∀ name id, map.idOf? name = some id → map.nameOf? id = some name) : map.Consistent := by
  obtain ⟨names, ids, -, hlength, hdedup, rfl⟩ := ofText_eq_ok_iff.mp h
  obtain ⟨hbyName, hbyId⟩ := size_ofPairs_zip hlength
  exact consistent_of_size (by rw [hbyName, hbyId, hdedup]) hnames

/-- In an accepted mapping, a document id gives back class id and primary key exactly if the class id is below the
    number of entity types; and the matches of records are always mapped to these records exactly if all class ids
    are, and the two directions of the mapping agree. -/
theorem ofText_decodes_iff {contents : String} (h : ofText contents = .ok map) :
    (∀ name id, map.idOf? name = some id → ∀ key, map.codec.encode id key < UInt64.size →
      (map.codec.decode? (map.codec.encode id key) = some (id, key) ↔ id.toNat < map.size)) ∧
    ((∀ matched refs, List.Forall₂ map.Stores matched refs → (map.refsOf matched).value = refs) ↔
      map.Consistent ∧ ∀ name id, map.idOf? name = some id → id.toNat < map.size) := by
  refine ⟨fun name id hid key hfits => DocumentIdCodec.decode?_encode_iff, ?_⟩
  rw [value_refsOf_iff]
  constructor
  · intro hall
    exact ⟨consistent_of_ofText h fun name id hid => (hall name id hid).2, fun name id hid => (hall name id hid).1⟩
  · rintro ⟨hconsistent, hlt⟩ name id hid
    exact ⟨hlt name id hid, (hconsistent name id).mp hid⟩

/-! ### Class ids below the number of entity types, and beyond it -/

/-- Two sources, whose class ids are below two. -/
def usersFirst : String :=
  "source sellers\n  sql_query = SELECT id * 2 + 1 AS id, 1 AS class_id FROM sellers\n" ++
  "source users\n  sql_query = SELECT id * 2 + 0 AS id, 0 AS class_id FROM users\n"

theorem ofText_usersFirst : ofText usersFirst = .ok (ofPairs [("Seller", 1), ("User", 0)]) := by
  decide +kernel

theorem ofText_decodes_usersFirst : ofText usersFirst = .ok (ofPairs [("Seller", 1), ("User", 0)]) ∧
    ∀ matched refs, List.Forall₂ (ofPairs [("Seller", 1), ("User", 0)]).Stores matched refs →
      ((ofPairs [("Seller", 1), ("User", 0)]).refsOf matched).value = refs := by
  refine ⟨ofText_usersFirst, (ofText_decodes_iff ofText_usersFirst).2.mpr ⟨?_, fun name id hid => ?_⟩⟩
  · exact consistent_ofPairs_of_nodup (by decide) (by decide)
  · have hmem := (idOf?_ofPairs.mp hid).mem
    rw [List.mem_pair] at hmem
    rcases hmem with hpair | hpair <;> obtain ⟨-, rfl⟩ := Prod.mk.inj hpair <;> decide

/-- One source, whose class id is five. -/
def loneSeller : String := "source sellers\n  sql_query = SELECT id * 1 + 5 AS id, 5 AS class_id FROM sellers\n"

theorem ofText_loneSeller : ofText loneSeller = .ok (ofPairs [("Seller", 5)]) := by
  decide +kernel

/-- The document of the seller with the key 3 is decoded as that with the key 8 of another class, and its match is
    dropped. -/
theorem refsOf_loneSeller : ∃ map, ofText loneSeller = .ok map ∧ map.idOf? "Seller" = some 5 ∧
    map.Stores ⟨8, 5, 1⟩ ⟨"Seller", 3⟩ ∧ map.codec.decode? (map.codec.encode 5 3) = some (0, 8) ∧
    (map.refsOf [⟨8, 5, 1⟩]).value = [] :=
  ⟨_, ofText_loneSeller, by decide, ⟨by decide, by decide, by decide⟩, by decide, by decide⟩

end ClassMap
end SearchClient
