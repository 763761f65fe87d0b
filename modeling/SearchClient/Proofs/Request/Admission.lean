import Mathlib.Data.List.Count
import SearchClient.Proofs.Request.Build

/-! Which documents a request admits. A document has integer attributes, and the daemon admits it if every filter
    of the request admits the value of its attribute. -/

namespace SearchClient

/-- How the daemon compares the value of a filter with an integer attribute: integers as integers, and other
    values in a way of its own, if at all. -/
structure ValueOrder where
  compare? : Scalar → Int → Option Ordering
  compare?_int : ∀ (n : Int64) (x : Int), compare? (.int n) x = some (compare n.toInt x)

/-- The order in which only integers compare with attributes. -/
def ValueOrder.integers : ValueOrder where
  compare?
    | .int n, x => some (compare n.toInt x)
    | _, _ => none
  compare?_int _ _ := rfl

def Filter.admits (order : ValueOrder) : Filter → Int → Bool
  | .equals value, x => order.compare? value x == some .eq
  | .anyOf values, x => values.any fun value => order.compare? value x == some .eq
  | .range min max, x => (order.compare? min x).any (·.isLE) && (order.compare? max x).any (·.isGE)

structure Document where
  attribute? : String → Option Int

namespace Document

def isOf (doc : Document) (id : UInt32) : Bool := doc.attribute? Request.classIdAttribute == some (id.toNat : Int)

def passes (order : ValueOrder) (doc : Document) (f : String × Filter) : Bool :=
  (doc.attribute? f.1).any (f.2.admits order)

end Document

namespace Request

/-- Whether all filters of a request admit a document. -/
def admits (order : ValueOrder) (request : Request) (doc : Document) : Bool :=
  request.filters.all (doc.passes order)

/-- Whether the filters of a request on other attributes than the class id admit a document. -/
def admitsInAnyClass (order : ValueOrder) (request : Request) (doc : Document) : Bool :=
  request.filters.all fun f => f.1 == classIdAttribute || doc.passes order f

/-- Whether the filters of a request on the class id admit a class. -/
def admitsClass (order : ValueOrder) (request : Request) (id : UInt32) : Bool :=
  request.filters.all fun f => f.1 != classIdAttribute || f.2.admits order id.toNat

end Request

/-! ### Classes -/

variable {order : ValueOrder} {doc : Document} {id : UInt32}

theorem toInt_classValue (id : UInt32) : (Int64.ofNat id.toNat).toInt = id.toNat :=
  Int64.toInt_ofNat_of_lt (Nat.lt_trans id.toNat_lt (by decide))

theorem compare?_classValue {x : Int} :
    order.compare? (Request.classValue id) x = some .eq ↔ x = id.toNat := by
  rw [Request.classValue, order.compare?_int, toInt_classValue, Option.some_inj, Int.compare_eq_eq, eq_comm]

theorem passes_of_isOf {filter : Filter} (h : doc.isOf id) :
    doc.passes order (Request.classIdAttribute, filter) = filter.admits order id.toNat := by
  rw [Document.isOf, beq_iff_eq] at h
  simp [Document.passes, h]

theorem passes_equals_classValue :
    doc.passes order (Request.classIdAttribute, .equals (Request.classValue id)) = doc.isOf id := by
  rw [Bool.eq_iff_iff, Document.passes, Option.any_eq_true, Document.isOf, beq_iff_eq]
  simp [Filter.admits, compare?_classValue]

namespace Request
variable {request : Request}

/-- A request admits the documents of a class that its other filters admit, if it admits the class. -/
theorem admits_of_isOf (h : doc.isOf id) :
    request.admits order doc = (request.admitsClass order id && request.admitsInAnyClass order doc) := by
  rw [Bool.eq_iff_iff, Bool.and_eq_true]
  simp only [admits, admitsClass, admitsInAnyClass, List.all_eq_true, ← forall_and]
  refine forall_congr' fun f => ?_
  by_cases hclass : f.1 = classIdAttribute
  · obtain ⟨field, filter⟩ := f
    obtain rfl : field = classIdAttribute := hclass
    simp [passes_of_isOf h]
  · simp [hclass]

/-- With the filter on a class in place of its filters on the class id, a request admits the documents of the
    class that its other filters admit. -/
theorem admits_setFilter_class :
    (request.setFilter classIdAttribute (.equals (classValue id))).admits order doc =
      (doc.isOf id && request.admitsInAnyClass order doc) := by
  rw [Bool.eq_iff_iff, Bool.and_eq_true]
  simp only [admits, admitsInAnyClass, List.all_eq_true, mem_filters_setFilter]
  constructor
  · intro h
    refine ⟨passes_equals_classValue ▸ h _ (.inl rfl), fun f hf => ?_⟩
    by_cases hclass : f.1 = classIdAttribute
    · simp [hclass]
    · simp [h f (.inr ⟨hf, hclass⟩)]
  · rintro ⟨hdoc, h⟩ f (rfl | ⟨hf, hclass⟩)
    · rw [passes_equals_classValue, hdoc]
    · simpa [hclass] using h f hf

end Request

/-! ### The classes that options ask for -/

/-- Whether options ask for documents of a class: one of the class names stands for it, or without class names
    the filter on the class id, if there is one, admits it. -/
def SearchOptions.AsksForClass (order : ValueOrder) (map : ClassMap) (options : SearchOptions) (id : UInt32) : Prop :=
  if options.classNames = [] then
    ∀ filter ∈ options.filters.get? Request.classIdAttribute, filter.admits order id.toNat
  else ∃ name ∈ options.classNames, map.idOf? name = some id

theorem admits_classFilter (order : ValueOrder) {map : ClassMap} {options : SearchOptions} :
    (Request.classFilter map options).admits order id.toNat ↔
      ∃ name ∈ options.classNames, map.idOf? name = some id := by
  simp only [Request.classFilter, Filter.admits, List.any_map, List.any_eq_true, Function.comp_apply, beq_iff_eq,
    compare?_classValue, Int.natCast_inj, UInt32.toNat_inj]
  rw [← Request.mem_classIdsFor]
  simp

/-- A built request admits the classes that its options ask for. -/
theorem admitsClass_build {settings : DaemonSettings} {map : ClassMap} {options : SearchOptions}
    {built : Reported Request} (h : Request.build settings map options = .ok built) :
    built.value.admitsClass order id ↔ options.AsksForClass order map id := by
  have hclass : built.value.admitsClass order id ↔
      ∀ f ∈ built.value.filters, f.1 = Request.classIdAttribute → f.2.admits order id.toNat := by
    simp only [Request.admitsClass, List.all_eq_true]
    refine forall₂_congr fun f _ => ?_
    by_cases hf : f.1 = Request.classIdAttribute <;> simp [hf]
  rw [hclass, SearchOptions.AsksForClass]
  simp only [Request.mem_filters_build h]
  split
  · constructor
    · exact fun h filter hfilter => h (_, filter) hfilter rfl
    · rintro h ⟨_, filter⟩ hfilter rfl
      exact h filter hfilter
  · rw [← admits_classFilter order]
    constructor
    · exact fun h => h _ (.inl rfl) rfl
    · rintro h f (rfl | ⟨-, hne⟩) hclass
      · exact h
      · exact absurd hclass hne

end SearchClient
