/-! Finite maps kept in the order of their keys, so that equal contents are equal values and listing a map
    needs no sorting. The view is `get?`; each operation says what it does to it. -/

namespace SearchClient

variable {κ α β : Type}

/-! ### Sorted lists of entries -/

namespace SortedMap

section Lookup
variable [DecidableEq κ]

/-- The value of the first entry with a key. -/
def lookup (k : κ) : List (κ × α) → Option α
  | [] => none
  | e :: es => if e.1 = k then some e.2 else lookup k es

theorem lookup_filter_ne (k k' : κ) :
    ∀ es : List (κ × α), lookup k' (es.filter fun e => e.1 != k) = if k = k' then none else lookup k' es
  | [] => by simp [lookup]
  | e :: es => by
    have ih := lookup_filter_ne k k' es
    by_cases he : e.1 = k
    · subst he
      simp only [List.filter_cons, bne_self_eq_false, Bool.false_eq_true, if_false, ih, lookup]
      split <;> rfl
    · by_cases hk : k = k'
      · subst hk; simp [lookup, he] at ih ⊢; exact ih
      · simp [lookup, he, hk] at ih ⊢; rw [ih]

end Lookup

variable [LT κ] [DecidableLT κ] [DecidableEq κ]

/-- Puts an entry at its place; an entry with the same key is replaced. -/
def insertEntry (k : κ) (v : α) : List (κ × α) → List (κ × α)
  | [] => [(k, v)]
  | e :: es =>
    if k < e.1 then (k, v) :: e :: es
    else if k = e.1 then (k, v) :: es
    else e :: insertEntry k v es

theorem fst_of_mem_insertEntry {k : κ} {v : α} {e : κ × α} :
    ∀ {es : List (κ × α)}, e ∈ insertEntry k v es → e = (k, v) ∨ e ∈ es
  | [], h => by simpa [insertEntry] using h
  | x :: es, h => by
    unfold insertEntry at h
    split at h
    · simpa using h
    · split at h
      · rcases List.mem_cons.mp h with h | h
        · exact .inl h
        · exact .inr (List.mem_cons_of_mem _ h)
      · rcases List.mem_cons.mp h with h | h
        · exact .inr (h ▸ List.mem_cons_self ..)
        · exact (fst_of_mem_insertEntry h).imp id (List.mem_cons_of_mem _)

theorem lookup_insertEntry (k k' : κ) (v : α) :
    ∀ es : List (κ × α), lookup k' (insertEntry k v es) = if k = k' then some v else lookup k' es
  | [] => by simp [insertEntry, lookup]
  | e :: es => by
    unfold insertEntry
    split
    · simp [lookup]
    · split
      · next h => subst h; simp only [lookup]; split <;> rfl
      · next h =>
        simp only [lookup, lookup_insertEntry k k' v es]
        by_cases he : e.1 = k'
        · simp [he, show ¬k = k' from fun hk => h (hk.trans he.symm)]
        · simp [he]

end SortedMap

/-- A finite map: its entries, with keys that increase. -/
structure SortedMap (κ α : Type) [LT κ] where
  entries : List (κ × α)
  sorted : entries.Pairwise (·.1 < ·.1)

/-- A map whose keys are texts, in the order of their code points. -/
abbrev Dict (α : Type) := SortedMap String α

namespace SortedMap

theorem eq_of_entries [LT κ] {m n : SortedMap κ α} (h : m.entries = n.entries) : m = n := by
  cases m; cases n; simp_all

variable [LT κ] [DecidableEq κ]

instance [DecidableEq α] : DecidableEq (SortedMap κ α) := fun m n =>
  decidable_of_iff (m.entries = n.entries) ⟨eq_of_entries, fun h => h ▸ rfl⟩

/-- The map without entries. -/
def empty : SortedMap κ α := ⟨[], .nil⟩

instance : Inhabited (SortedMap κ α) := ⟨empty⟩

/-- The entries in the order of their keys. -/
def toList (m : SortedMap κ α) : List (κ × α) := m.entries

def keys (m : SortedMap κ α) : List κ := m.entries.map (·.1)

def size (m : SortedMap κ α) : Nat := m.entries.length

def isEmpty (m : SortedMap κ α) : Bool := m.entries.isEmpty

def get? (m : SortedMap κ α) (k : κ) : Option α := lookup k m.entries

@[simp] theorem get?_empty (k : κ) : (empty : SortedMap κ α).get? k = none := rfl

def contains (m : SortedMap κ α) (k : κ) : Bool := (m.get? k).isSome

/-- The map without the entry of a key. -/
def erase (m : SortedMap κ α) (k : κ) : SortedMap κ α :=
  ⟨m.entries.filter fun e => e.1 != k, m.sorted.sublist List.filter_sublist⟩

theorem get?_erase (m : SortedMap κ α) (k k' : κ) :
    (m.erase k).get? k' = if k = k' then none else m.get? k' := lookup_filter_ne k k' m.entries

/-- The entries for which `f` gives a value, with that value. -/
def filterMap (f : κ → α → Option β) (m : SortedMap κ α) : SortedMap κ β where
  entries := m.entries.filterMap fun e => (f e.1 e.2).map (e.1, ·)
  sorted := by
    refine m.sorted.filterMap _ fun a a' h b hb b' hb' => ?_
    obtain ⟨x, -, rfl⟩ := Option.map_eq_some_iff.mp hb
    obtain ⟨y, -, rfl⟩ := Option.map_eq_some_iff.mp hb'
    exact h

/-- The same keys with changed values. -/
def mapValues (f : α → β) (m : SortedMap κ α) : SortedMap κ β where
  entries := m.entries.map fun e => (e.1, f e.2)
  sorted := m.sorted.map _ fun _ _ h => h

variable [DecidableLT κ] [LE κ] [Std.IsLinearOrder κ] [Std.LawfulOrderLT κ]

theorem sorted_insertEntry (k : κ) (v : α) :
    ∀ {es : List (κ × α)}, es.Pairwise (·.1 < ·.1) → (insertEntry k v es).Pairwise (·.1 < ·.1)
  | [], _ => by simp [insertEntry]
  | e :: es, h => by
    rw [List.pairwise_cons] at h
    unfold insertEntry
    split
    · next hk =>
      refine List.pairwise_cons.mpr ⟨fun x hx => ?_, List.pairwise_cons.mpr h⟩
      rcases List.mem_cons.mp hx with rfl | hx
      · exact hk
      · exact Std.lt_trans hk (h.1 x hx)
    · split
      · next hk => exact List.pairwise_cons.mpr ⟨fun x hx => hk ▸ h.1 x hx, h.2⟩
      · next hlt hne =>
        refine List.pairwise_cons.mpr ⟨fun x hx => ?_, sorted_insertEntry k v h.2⟩
        rcases fst_of_mem_insertEntry hx with rfl | hx
        · rcases Std.lt_trichotomy k e.1 with hk | hk | hk
          · exact absurd hk hlt
          · exact absurd hk hne
          · exact hk
        · exact h.1 x hx

/-- The map with a value for a key, in place of an earlier one. -/
def insert (m : SortedMap κ α) (k : κ) (v : α) : SortedMap κ α :=
  ⟨insertEntry k v m.entries, sorted_insertEntry k v m.sorted⟩

/-- The map of a list of entries; of several entries with one key the last one counts. -/
def ofList (es : List (κ × α)) : SortedMap κ α := es.foldl (fun m e => m.insert e.1 e.2) empty

theorem get?_insert (m : SortedMap κ α) (k k' : κ) (v : α) :
    (m.insert k v).get? k' = if k = k' then some v else m.get? k' := lookup_insertEntry k k' v m.entries

end SortedMap
end SearchClient
