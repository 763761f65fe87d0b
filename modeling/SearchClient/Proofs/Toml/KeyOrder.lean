import SearchClient.Proofs.SortedMap
import SearchClient.Toml.Format

/-! The order of keys in documents. While a document is read its tables list their keys as they come; whatever is then
read as a value is a table with its keys in order, or no table. So TOML has the order on which decoding relies. -/

namespace SearchClient.Toml

/-- A table lists its keys in order. -/
def KeysInOrder : Toml → Prop
  | .table entries => entries.Pairwise (·.1 < ·.1)
  | _ => True

/-! ### Values -/

theorem keysInOrder_ofDict (m : Dict Toml) : (Toml.table m.toList).KeysInOrder := m.sorted

theorem keysInOrder_int? {n : Int} {value : Toml} (h : int? n = some value) : value.KeysInOrder := by
  unfold int? at h
  split at h
  · cases h
    trivial
  · cases h

theorem keysInOrder_based? {base : Nat} {isDigit : Char → Bool} {cs : List Char} {read : Toml × List Char}
    (h : based? base isDigit cs = some read) : read.1.KeysInOrder := by
  simp only [based?, Option.bind_eq_bind, Option.bind_eq_some_iff] at h
  obtain ⟨_, -, n, -, value, hvalue, h⟩ := h
  cases h
  exact keysInOrder_int? hvalue

theorem keysInOrder_decimal? {negative : Bool} {cs : List Char} {read : Toml × List Char}
    (h : decimal? negative cs = some read) : read.1.KeysInOrder := by
  -- With either sign, both ways to begin a number go on in the same way.
  cases negative
  all_goals
    simp only [decimal?, Bool.false_eq_true, if_true, if_false] at h
    split at h
  all_goals
    simp only [Option.bind_eq_bind, Option.bind_eq_some_iff] at h
    obtain ⟨_, -, _, -, _, -, digits, -, h⟩ := h
    split at h
    · obtain ⟨value, hvalue, h⟩ := Option.bind_eq_some_iff.mp h
      cases h
      exact keysInOrder_int? hvalue
    · split at h
      · cases h
      · cases h
        trivial

theorem keysInOrder_number? {cs : List Char} {read : Toml × List Char} (h : number? cs = some read) :
    read.1.KeysInOrder := by
  unfold number? at h
  split at h
  · exact keysInOrder_based? h
  · exact keysInOrder_based? h
  · exact keysInOrder_based? h
  · dsimp only at h
    split at h
    · cases h
      trivial
    · cases h
      trivial
    · exact keysInOrder_decimal? h

theorem keysInOrder_value? {depth : Nat} {cs : List Char} {read : Toml × List Char}
    (h : value? depth cs = some read) : read.1.KeysInOrder := by
  unfold value? at h
  split at h
  · cases h
    trivial
  · cases h
    trivial
  · cases h
  · obtain ⟨_, -, rfl⟩ := Option.map_eq_some_iff.mp h
    trivial
  · cases h
  · split at h
    · cases h
      exact .nil
    · obtain ⟨read, -, rfl⟩ := Option.map_eq_some_iff.mp h
      exact keysInOrder_ofDict _
  · split at h
    · obtain ⟨_, -, rfl⟩ := Option.map_eq_some_iff.mp h
      trivial
    · obtain ⟨_, -, rfl⟩ := Option.map_eq_some_iff.mp h
      trivial
    · obtain ⟨read, -, h⟩ := Option.bind_eq_some_iff.mp h
      split at h
      · cases h
        trivial
      · exact keysInOrder_number? h

/-! ### Tables while a document is read -/

/-- All values inside a node have their keys in order. -/
inductive Node.InOrder : Node → Prop
  | value {v : Toml} (h : v.KeysInOrder) : InOrder (.value v)
  | table {isImplicit dotted : Bool} {entries : List (String × Node)} (h : ∀ e ∈ entries, InOrder e.2) :
      InOrder (.table isImplicit dotted entries)
  | tables {last : List (String × Node)} {before : List (List (String × Node))} (hlast : ∀ e ∈ last, InOrder e.2)
      (hbefore : ∀ es ∈ before, ∀ e ∈ es, InOrder e.2) : InOrder (.tables last before)

theorem Node.InOrder.toToml {node : Node} (h : node.InOrder) : node.toToml.KeysInOrder := by
  cases h with
  | value h => exact h
  | table h => exact keysInOrder_ofDict _
  | tables hlast hbefore => trivial

namespace Entries

def InOrder (es : Entries) : Prop := ∀ e ∈ es, e.2.InOrder

theorem mem_set {key : String} {node : Node} {e : String × Node} :
    ∀ {es : Entries}, e ∈ es.set key node → e = (key, node) ∨ e ∈ es
  | [], h => .inl (List.mem_singleton.mp h)
  | e' :: es, h => by
    unfold Entries.set at h
    split at h
    · exact (List.mem_cons.mp h).imp_right (List.mem_cons_of_mem _)
    · rcases List.mem_cons.mp h with rfl | h
      · exact .inr List.mem_cons_self
      · exact (mem_set h).imp_right (List.mem_cons_of_mem _)

namespace InOrder
variable {es : Entries} {key : String} {node : Node}

theorem nil : InOrder [] := List.forall_mem_nil _

theorem get? (h : es.InOrder) (hnode : es.get? key = some node) : node.InOrder := h _ (SortedMap.mem_of_lookup hnode)

theorem set (h : es.InOrder) (hnode : node.InOrder) : InOrder (es.set key node) := by
  intro e he
  rcases mem_set he with rfl | he
  · exact hnode
  · exact h e he

theorem remove (h : es.InOrder) : InOrder (es.remove key) := fun e he => h e (List.mem_filter.mp he).1

/-- What changes the table at the end of a path may rely on the order of its values and has to keep it. -/
theorem update {dotted : Bool} {change : Bool → Entries → Option Entries}
    (hchange : ∀ origin {es es'}, InOrder es → change origin es = some es' → InOrder es') :
    ∀ (path : List String) {origin : Bool} {es es' : Entries}, InOrder es →
      Entries.update dotted change path origin es = some es' → InOrder es'
  | [], origin, _, _, h, hes' => hchange origin h hes'
  | key :: path, _, es, _, h, hes' => by
    unfold Entries.update at hes'
    split at hes'
    · obtain ⟨below, hbelow, rfl⟩ := Option.map_eq_some_iff.mp hes'
      exact h.set (.table (update hchange path nil hbelow))
    · cases hes'
    · next last before hnode =>
      obtain ⟨below, hbelow, rfl⟩ := Option.map_eq_some_iff.mp hes'
      cases h.get? hnode with
      | tables hlast hbefore => exact h.set (.tables (update hchange path hlast hbelow) hbefore)
    · next hnode =>
      split at hes'
      · cases hes'
      · obtain ⟨below, hbelow, rfl⟩ := Option.map_eq_some_iff.mp hes'
        cases h.get? hnode with
        | table hentries => exact h.set (.table (update hchange path hentries hbelow))

theorem addValue {path : List String} {value : Toml} {es' : Entries} (h : es.InOrder) (hvalue : value.KeysInOrder)
    (hes' : es.addValue path value = some es') : InOrder es' := by
  unfold Entries.addValue at hes'
  split at hes'
  · cases hes'
  · refine h.update (fun origin es es' hes h => ?_) _ hes'
    split at h
    · cases h
    · cases h
      exact hes.set (.value hvalue)

theorem find : ∀ (path : List String) {es : Entries} {node : Node}, InOrder es →
    takeTable.find path es = some (some node) → node.InOrder
  | [], _, _, _, hnode => by cases hnode
  | [key], _, _, h, hnode => h.get? (Option.some.inj hnode)
  | key :: key' :: path, _, _, h, hnode => by
    unfold takeTable.find at hnode
    split at hnode
    · cases hnode
    · cases hnode
    · next hes =>
      cases h.get? hes with
      | tables hlast hbefore => exact find (key' :: path) hlast hnode
    · next hes =>
      cases h.get? hes with
      | table hentries => exact find (key' :: path) hentries hnode

theorem takeTable {path : List String} {taken : Entries × Entries} (h : es.InOrder)
    (htaken : es.takeTable path = some taken) : taken.1.InOrder ∧ taken.2.InOrder := by
  unfold Entries.takeTable at htaken
  split at htaken
  · cases htaken
  · next key hkey =>
    simp only [Option.bind_eq_bind, Option.bind_eq_some_iff] at htaken
    obtain ⟨root, hroot, node, hnode, htaken⟩ := htaken
    have hroot : InOrder root := h.update (fun origin es es' hes h => Option.some.inj h ▸ hes) _ hroot
    split at htaken
    · cases htaken
      exact ⟨nil, hroot⟩
    · next below =>
      obtain ⟨root', hroot', htaken⟩ := Option.bind_eq_some_iff.mp htaken
      cases htaken
      refine ⟨?_, hroot.update (fun origin es es' hes h => Option.some.inj h ▸ hes.remove) _ hroot'⟩
      cases find path hroot hnode with
      | table hentries => exact hentries
    · cases htaken

theorem putTable {path : List String} {table es' : Entries} (h : es.InOrder) (htable : table.InOrder)
    (hes' : es.putTable path table = some es') : InOrder es' := by
  unfold Entries.putTable at hes'
  split at hes'
  · cases hes'
  · exact h.update (fun origin es es' hes h => Option.some.inj h ▸ hes.set (.table htable)) _ hes'

theorem pushTable {path : List String} {table es' : Entries} (h : es.InOrder) (htable : table.InOrder)
    (hes' : es.pushTable path table = some es') : InOrder es' := by
  unfold Entries.pushTable at hes'
  split at hes'
  · cases hes'
  · refine h.update (fun origin es es' hes h => ?_) _ hes'
    split at h
    · cases h
      exact hes.set (.tables htable (List.forall_mem_nil _))
    · next last before hnode =>
      cases h
      cases hes.get? hnode with
      | tables hlast hbefore =>
        refine hes.set (.tables htable fun es hmem => ?_)
        rcases List.mem_append.mp hmem with hmem | hmem
        · exact hbefore es hmem
        · exact List.mem_singleton.mp hmem ▸ hlast
    · cases h

end InOrder

theorem entriesToToml_eq_map :
    ∀ es : Entries, Node.entriesToToml es = es.map fun e => (e.1, e.2.toToml)
  | [] => rfl
  | (key, node) :: es => by rw [Node.entriesToToml, List.map_cons, entriesToToml_eq_map es]

theorem InOrder.toDict {es : Entries} (h : es.InOrder) {key : String} {value : Toml}
    (hvalue : es.toDict.get? key = some value) : value.KeysInOrder := by
  have hmem := (SortedMap.get?_ofList_eq_some_iff.mp hvalue).mem
  rw [entriesToToml_eq_map] at hmem
  obtain ⟨e, he, heq⟩ := List.mem_map.mp hmem
  cases heq
  exact (h e he).toToml

end Entries

/-! ### Documents -/

namespace Document

structure InOrder (doc : Document) : Prop where
  root : doc.root.InOrder
  current : doc.current.InOrder

variable {doc doc' : Document}

theorem InOrder.finish {es : Entries} (h : doc.InOrder) (hes : doc.finish = some es) : es.InOrder := by
  unfold Document.finish at hes
  split at hes
  · cases hes
    exact h.current
  · split at hes
    · exact h.root.pushTable h.current hes
    · exact h.root.putTable h.current hes

theorem InOrder.startTable {path : List String} (h : doc.InOrder) (hdoc : doc.startTable path = some doc') :
    doc'.InOrder := by
  simp only [Document.startTable, Option.bind_eq_bind, Option.bind_eq_some_iff] at hdoc
  obtain ⟨root, hroot, taken, htaken, hdoc⟩ := hdoc
  cases hdoc
  obtain ⟨hcurrent, hroot⟩ := (h.finish hroot).takeTable htaken
  exact ⟨hroot, hcurrent⟩

theorem InOrder.startArrayTable {path : List String} (h : doc.InOrder)
    (hdoc : doc.startArrayTable path = some doc') : doc'.InOrder := by
  simp only [Document.startArrayTable, Option.bind_eq_bind, Option.bind_eq_some_iff] at hdoc
  obtain ⟨root, hroot, _, -, hdoc⟩ := hdoc
  cases hdoc
  exact ⟨h.finish hroot, .nil⟩

end Document

theorem inOrder_header? {doc : Document} {cs : List Char} {read : Document × List Char} (h : doc.InOrder)
    (hread : header? doc cs = some read) : read.1.InOrder := by
  unfold header? at hread
  split at hread
  all_goals
    simp only [Option.bind_eq_bind, Option.bind_eq_some_iff] at hread
    obtain ⟨_, -, hread⟩ := hread
    split at hread
  · obtain ⟨doc', hdoc', hread⟩ := Option.bind_eq_some_iff.mp hread
    cases hread
    exact h.startArrayTable hdoc'
  · cases hread
  · obtain ⟨doc', hdoc', hread⟩ := Option.bind_eq_some_iff.mp hread
    cases hread
    exact h.startTable hdoc'
  · cases hread

theorem keysInOrder_keyValue? {depth : Nat} {cs : List Char} {read : List String × Toml × List Char}
    (h : keyValue? (value? depth) cs = some read) : read.2.1.KeysInOrder := by
  simp only [keyValue?, Option.bind_eq_bind, Option.bind_eq_some_iff] at h
  obtain ⟨_, -, h⟩ := h
  split at h
  · obtain ⟨value, hvalue, h⟩ := Option.bind_eq_some_iff.mp h
    cases h
    show value.1.KeysInOrder
    exact keysInOrder_value? hvalue
  · cases h

theorem inOrder_lines? : ∀ (fuel : Nat) {doc doc' : Document} {cs : List Char}, doc.InOrder →
    lines? doc fuel cs = some doc' → doc'.InOrder
  | 0, _, _, _, _, hdoc' => by cases hdoc'
  | fuel + 1, doc, _, _, h, hdoc' => by
    unfold lines? at hdoc'
    split at hdoc'
    · cases hdoc'
      exact h
    · simp only [Option.bind_eq_bind, Option.bind_eq_some_iff] at hdoc'
      obtain ⟨read, hread, _, -, hdoc'⟩ := hdoc'
      exact inOrder_lines? fuel (inOrder_header? h hread) hdoc'
    · split at hdoc'
      · obtain ⟨_, -, hdoc'⟩ := Option.bind_eq_some_iff.mp hdoc'
        exact inOrder_lines? fuel h hdoc'
      · simp only [Option.bind_eq_bind, Option.bind_eq_some_iff] at hdoc'
        obtain ⟨read, hread, current, hcurrent, _, -, hdoc'⟩ := hdoc'
        have hnext : Document.InOrder { doc with current } :=
          ⟨h.root, h.current.addValue (keysInOrder_keyValue? hread) hcurrent⟩
        exact inOrder_lines? fuel hnext hdoc'

/-- The tables that stand at the keys of a table that was read list their own keys in order. -/
def Format.ReadsInOrder (format : Format) : Prop :=
  ∀ text table, format.read? text = some table → ∀ key value, table.get? key = some value → value.KeysInOrder

theorem Format.standard_readsInOrder : Format.standard.ReadsInOrder := by
  intro text table htable _ _ hvalue
  change document? text.toList = some table at htable
  simp only [document?, Option.bind_eq_bind, Option.bind_eq_some_iff] at htable
  obtain ⟨doc, hdoc, root, hroot, htable⟩ := htable
  cases htable
  have hinit : Document.InOrder {} := ⟨.nil, .nil⟩
  exact ((inOrder_lines? _ hinit hdoc).finish hroot).toDict hvalue

end SearchClient.Toml
