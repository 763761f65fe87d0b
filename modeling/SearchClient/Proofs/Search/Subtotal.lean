import SearchClient.Options.Normalize
import SearchClient.Proofs.ClassMap
import SearchClient.Proofs.Request.Admission
import SearchClient.Proofs.Search.Action

/-! What subtotals count. The request for the subtotal of a class has all filters of the main request but those on
    the class id, which the filter on the class replaces; so a subtotal also counts documents of classes that
    the main request leaves out. -/

namespace SearchClient

/-! ### Indexes -/

/-- What the daemon searches: its documents, which of them a query asks for, and how filters compare. -/
structure Index where
  documents : List Document
  order : ValueOrder
  answers : String → Document → Bool

namespace Index
variable {σ E : Type}

/-- How many documents a query asks for, of those that are admitted. -/
def count (index : Index) (text : String) (admitted : Document → Bool) : Nat :=
  index.documents.countP fun doc => index.answers text doc && admitted doc

/-- When the daemon replies, it reports how many documents the query asks for, of those that the request admits. -/
def CountedBy (index : Index) (host : Host σ E) : Prop :=
  ∀ request text s response, (host.query request text s).1 = .ok response →
    response.totalFound = index.count text (request.admits index.order)

def host (index : Index) : Host Unit Unit :=
  .replying fun request text => .ok { totalFound := index.count text (request.admits index.order) }

theorem countedBy_host (index : Index) : index.CountedBy index.host := by
  intro request text s response h
  obtain rfl := Except.ok.inj h
  rfl

variable {index : Index} {text : String} {p q : Document → Bool}

theorem count_congr (h : ∀ doc, p doc = q doc) : index.count text p = index.count text q := by
  rw [funext h]

theorem count_false (h : ∀ doc, p doc = false) : index.count text p = 0 := by
  simp [count, h]

end Index

/-! ### Counting class by class -/

section Count
variable {σ E : Type} {host : Host σ E} {base : Request} {text : String}

/-- If every reply for a class gives its total, counting fails only as the daemon does, and otherwise gives each
    name the total of the last class that has it. -/
theorem outcome_countSubtotals (retry : RetryPolicy) (total : UInt32 → Nat)
    (htotal : ∀ id s response, (host.query (base.forSubtotal id) text s).1 = .ok response →
      min response.totalFound base.maxMatches = total id) :
    ∀ (classes : List (String × UInt32)) (counted : Dict Nat) (world : World σ),
      (∃ error, outcome (countSubtotals host retry base text counted classes) world = .error error ∧
        ∃ c ∈ classes, ∃ s, (host.query (base.forSubtotal c.2) text s).1 = .error error) ∨
      outcome (countSubtotals host retry base text counted classes) world =
        .ok ((classes.map fun c => (c.1, total c.2)).foldl (fun m e => m.insert e.1 e.2) counted)
  | [], _, _ => .inr rfl
  | (name, id) :: classes, counted, world => by
    obtain ⟨⟨s, hs⟩, -⟩ := retry.run_queryAct "subtotal" host (base.forSubtotal id) text world
    cases hquery : (host.query (base.forSubtotal id) text s).1 with
    | error error =>
      rw [hquery] at hs
      exact .inl ⟨error, outcome_bind_of_error hs, _, List.mem_cons_self .., s, hquery⟩
    | ok response =>
      rw [hquery] at hs
      have hnext : outcome (countSubtotals host retry base text counted ((name, id) :: classes)) world =
          outcome (countSubtotals host retry base text (counted.insert name (total id)) classes)
            (after (retry.run "subtotal" (host.queryAct (base.forSubtotal id) text)) world) := by
        rw [← htotal id s response hquery]
        exact outcome_bind_of_ok hs
      rw [hnext]
      rcases outcome_countSubtotals retry total htotal classes _ _ with ⟨error, herror, c, hc, hfailed⟩ | hok
      · exact .inl ⟨error, herror, c, List.mem_cons_of_mem _ hc, hfailed⟩
      · exact .inr hok

end Count

/-! ### What is counted -/

/-- The documents of a class that other filters than those on the class id admit. -/
def Index.subtotal (index : Index) (base : Request) (text : String) (id : UInt32) : Nat :=
  index.count text fun doc => doc.isOf id && base.admitsInAnyClass index.order doc

section Subtotal
variable {σ E : Type} {index : Index} {host : Host σ E} {base : Request} {text : String} {id : UInt32}

theorem totalFound_forSubtotal (hcounts : index.CountedBy host) {s : σ} {response : Response}
    (h : (host.query (base.forSubtotal id) text s).1 = .ok response) :
    response.totalFound = index.subtotal base text id := by
  rw [hcounts _ _ _ _ h]
  exact Index.count_congr fun doc => Request.admits_setFilter_class

/-- The main request admits the documents that a subtotal counts, or none of its class. -/
theorem count_admits_class : (index.count text fun doc => doc.isOf id && base.admits index.order doc) =
    if base.admitsClass index.order id then index.subtotal base text id else 0 := by
  split
  · next hclass =>
    refine Index.count_congr fun doc => ?_
    cases hdoc : doc.isOf id with
    | false => rfl
    | true => simp [Request.admits_of_isOf hdoc, hclass]
  · next hclass =>
    refine Index.count_false fun doc => ?_
    cases hdoc : doc.isOf id with
    | false => rfl
    | true => simp [Request.admits_of_isOf hdoc, hclass]

/-- Up to a greatest number, the main request admits as many documents of a class as the subtotal counts exactly
    if it admits the class or the subtotal counts none. -/
theorem subtotal_eq_count_admits_iff (greatest : Nat) :
    min (index.subtotal base text id) greatest =
        min (index.count text fun doc => doc.isOf id && base.admits index.order doc) greatest ↔
      base.admitsClass index.order id ∨ min (index.subtotal base text id) greatest = 0 := by
  rw [count_admits_class]
  split
  · next hclass => simp [hclass]
  · next hclass => simp [hclass]

end Subtotal

/-- Subtotals fail only as the daemon does. Otherwise each type has the number of its documents that the main
    request would admit if it did not look at the class, up to the greatest number of matches; this is the number
    of those that it does admit exactly if the options ask for the class, or if it is zero. -/
theorem countSubtotals_build {σ E : Type} {index : Index} {host : Host σ E} (hcounts : index.CountedBy host)
    {settings : DaemonSettings} {map : ClassMap} {options : SearchOptions} {built : Reported Request}
    (hbuilt : Request.build settings map options = .ok built) (retry : RetryPolicy) (text : String)
    (world : World σ) :
    (∀ error, outcome (countSubtotals host retry built.value text .empty map.toList) world = .error error →
      ∃ id s, (map.nameOf? id).isSome ∧ (host.query (built.value.forSubtotal id) text s).1 = .error error) ∧
    (∀ subtotals, outcome (countSubtotals host retry built.value text .empty map.toList) world = .ok subtotals →
      ∀ name total, subtotals.get? name = some total ↔ ∃ id, map.IsLastId name id ∧
        total = min (index.subtotal built.value text id) settings.maxMatches) ∧
    ∀ id, min (index.subtotal built.value text id) settings.maxMatches =
        min (index.count text fun doc => doc.isOf id && built.value.admits index.order doc) settings.maxMatches ↔
      options.AsksForClass index.order map id ∨
        min (index.subtotal built.value text id) settings.maxMatches = 0 := by
  have hmax := Request.maxMatches_build hbuilt
  have hcounted := outcome_countSubtotals retry
    (fun id => min (index.subtotal built.value text id) settings.maxMatches)
    (fun id s response h => by rw [totalFound_forSubtotal hcounts h, hmax]) map.toList .empty world
  refine ⟨fun error herror => ?_, fun subtotals hok name total => ?_, fun id => ?_⟩
  · rcases hcounted with ⟨error', herror', ⟨name, id⟩, hclass, s, hs⟩ | hok
    · obtain rfl := Except.error.inj (herror.symm.trans herror')
      exact ⟨id, s, by simp [ClassMap.mem_toList.mp hclass], hs⟩
    · exact nomatch herror.symm.trans hok
  · rcases hcounted with ⟨error, herror, -⟩ | hok'
    · exact nomatch hok.symm.trans herror
    · obtain rfl := Except.ok.inj (hok.symm.trans hok')
      show (SortedMap.ofList (map.toList.map _)).get? name = some total ↔ _
      rw [SortedMap.get?_ofList_eq_some_iff, IsLastBy.map_iff_exists]
      constructor
      · rintro ⟨⟨name, id⟩, heq, hlast⟩
        obtain ⟨rfl, rfl⟩ := Prod.mk.inj heq
        exact ⟨id, ClassMap.isLastBy_toList_iff.mp hlast, rfl⟩
      · rintro ⟨id, hlast, rfl⟩
        exact ⟨(name, id), rfl, ClassMap.isLastBy_toList_iff.mpr hlast⟩
  · rw [subtotal_eq_count_admits_iff, admitsClass_build hbuilt]

/-! ### A class that the options leave out -/

def sellersAndUsers : ClassMap := .ofPairs [("Seller", 0), ("User", 1)]

def usersOnly : SearchOptions :=
  (SearchOptions.normalize {} (.ofList [("query", .str "dog"), ("class_names", .list [.str "User"])])).value

/-- An index of one seller and one user, both of which every query asks for. -/
def sellerAndUser : Index where
  documents := [⟨fun _ => some 0⟩, ⟨fun _ => some 1⟩]
  order := .integers
  answers _ _ := true

def usersOnlyRequest : Reported Request :=
  ((Request.build {} sellersAndUsers usersOnly).toOption).getD ⟨{}, []⟩

theorem build_usersOnly : Request.build {} sellersAndUsers usersOnly = .ok usersOnlyRequest := by
  rfl

theorem countSubtotals_build_usersOnly :
    Request.build {} sellersAndUsers usersOnly = .ok usersOnlyRequest ∧
    sellerAndUser.CountedBy sellerAndUser.host ∧
    ∀ id, min (sellerAndUser.subtotal usersOnlyRequest.value "dog" id) 1000 =
        min (sellerAndUser.count "dog" fun doc => doc.isOf id && usersOnlyRequest.value.admits .integers doc) 1000 ↔
      usersOnly.AsksForClass .integers sellersAndUsers id ∨
        min (sellerAndUser.subtotal usersOnlyRequest.value "dog" id) 1000 = 0 :=
  ⟨build_usersOnly, sellerAndUser.countedBy_host,
    (countSubtotals_build sellerAndUser.countedBy_host build_usersOnly ⟨0, 0⟩ "dog" ⟨(), {}, []⟩).2.2⟩

/-- Users only are asked for, and yet the one seller is counted, whom the main request does not admit. -/
theorem countSubtotals_usersOnly :
    Request.build {} sellersAndUsers usersOnly = .ok usersOnlyRequest ∧
    ((outcome (countSubtotals sellerAndUser.host ⟨0, 0⟩ usersOnlyRequest.value "dog" .empty sellersAndUsers.toList)
      ⟨(), {}, []⟩).toOption.bind (·.get? "Seller")) = some 1 ∧
    (sellerAndUser.count "dog" fun doc => doc.isOf 0 && usersOnlyRequest.value.admits .integers doc) = 0 :=
  ⟨build_usersOnly, by decide +kernel⟩

end SearchClient
