import SearchClient.Proofs.Query.Origin

/-! What becomes of undeclared field names. A name waits for the next clause of its group, which takes it into a leaf
    of the tree. It is lost if another undeclared name comes before, if what comes is a blank phrase or a group
    without leaves, and if the group or the query ends first. -/

namespace SearchClient.Query
open Text

variable {declared : List Char → Bool}

/-! ### The clause that takes a name -/

/-- Whether a clause takes the undeclared name in front of some tokens; `depth` groups are open there. -/
def takesName (declared : List Char → Bool) (depth : Nat) : List Token → Bool
  | [] => false
  | .word _ :: _ => true
  | .phrase text :: _ => Token.asks (.phrase text)
  | .openGroup :: rest => fillsGroup declared {} rest
  | .closeGroup :: rest => depth == 0 && takesName declared depth rest
  | .field name :: rest => declared name && takesName declared depth rest
  | .and :: rest | .or :: rest | .not :: rest => takesName declared depth rest

/-- The undeclared names among some tokens, each with whether a clause takes it. -/
def nameFates (declared : List Char → Bool) : Place → List Token → List (List Char × Bool)
  | _, [] => []
  | place, token :: rest =>
    (token.undeclared declared).map (fun name => (name, takesName declared place.depth rest)) ++
      nameFates declared (place.read declared token) rest

/-- The undeclared names that a clause takes. -/
def takenNames (declared : List Char → Bool) (place : Place) (tokens : List Token) : List (List Char) :=
  ((nameFates declared place tokens).filter (·.2)).map (·.1)

theorem map_fst_nameFates (place : Place) (tokens : List Token) :
    (nameFates declared place tokens).map (·.1) = tokens.flatMap (Token.undeclared declared) := by
  induction tokens generalizing place with
  | nil => rfl
  | cons token tokens ih =>
    rw [nameFates, List.map_append, List.map_map, ih, List.flatMap_cons]
    exact congrArg (· ++ _) (List.map_id _)

theorem takenNames_eq_iff (place : Place) (tokens : List Token) :
    takenNames declared place tokens = tokens.flatMap (Token.undeclared declared) ↔
      ∀ fate ∈ nameFates declared place tokens, fate.2 = true := by
  rw [← map_fst_nameFates place tokens, takenNames]
  constructor
  · intro h
    have hlength := congrArg List.length h
    rw [List.length_map, List.length_map] at hlength
    exact List.length_filter_eq_length_iff.mp hlength
  · intro h
    rw [List.filter_eq_self.mpr h]

theorem takenNames_cons {place : Place} {token : Token} (h : token.undeclared declared = []) (rest : List Token) :
    takenNames declared place (token :: rest) = takenNames declared (place.read declared token) rest := by
  rw [takenNames, nameFates, h, List.map_nil, List.nil_append, takenNames]

theorem takenNames_field {place : Place} {name : List Char} (h : declared name = false) (rest : List Token) :
    takenNames declared place (.field name :: rest) =
      (if takesName declared place.depth rest then [name] else []) ++
        takenNames declared { place with waiting := some name } rest := by
  rw [takenNames, nameFates, Token.undeclared_undeclared h, Place.read_undeclared h, takenNames]
  cases takesName declared place.depth rest <;> rfl

variable (declared) in
/-- The name that waits is in a leaf if a clause takes it, and so are the names that come. -/
theorem names_all (place : Place) (tokens : List Token) :
    (Origin.all declared place tokens).filterMap Origin.name? =
      (if takesName declared place.depth tokens then place.waiting.toList else []) ++
        takenNames declared place tokens := by
  induction tokens generalizing place with
  | nil => rfl
  | cons token tokens ih =>
    have halone : (place.waiting.toList.map Origin.alone).filterMap Origin.name? = place.waiting.toList := by
      cases place.waiting <;> rfl
    have hnone : ∀ depth, (Origin.all declared ⟨depth, none⟩ tokens).filterMap Origin.name? =
        takenNames declared ⟨depth, none⟩ tokens := fun depth => by
      rw [ih, Option.toList_none, ite_self, List.nil_append]
    rw [Origin.all, List.filterMap_append]
    cases token with
    | openGroup =>
      rw [takenNames_cons rfl, show Place.read declared place .openGroup = ⟨place.depth + 1, none⟩ from rfl, hnone,
        Place.origins, takesName]
      split
      · rw [halone]
      · rfl
    | closeGroup =>
      rw [takenNames_cons rfl, takesName]
      by_cases hdepth : place.depth = 0
      · rw [show place.read declared .closeGroup = place from if_pos hdepth, ih, hdepth]
        rfl
      · rw [show place.read declared .closeGroup = ⟨place.depth - 1, none⟩ from if_neg hdepth, hnone,
          beq_false_of_ne hdepth]
        rfl
    | and => exact ih place
    | or => exact ih place
    | not => exact ih place
    | field name =>
      cases hname : declared name with
      | true =>
        rw [takenNames_cons (Token.undeclared_declared hname), Place.read_declared hname, takesName, hname, ih]
        rfl
      | false =>
        rw [takenNames_field hname, Place.read_undeclared hname, takesName, hname, ih]
        rfl
    | phrase text =>
      rw [takenNames_cons rfl, show place.read declared (.phrase text) = ⟨place.depth, none⟩ from rfl, hnone, takesName]
      cases hasks : Token.asks (.phrase text) with
      | true => simp [Place.origins, Place.fills, hasks, halone, Origin.name?]
      | false => simp [Place.origins, Place.fills, hasks]
    | word text =>
      rw [takenNames_cons rfl, show place.read declared (.word text) = ⟨place.depth, none⟩ from rfl, hnone, takesName]
      cases hwaiting : place.waiting with
      | none => cases hasks : Token.asks (.word text) <;> simp [Place.origins, Place.fills, hwaiting, hasks, Origin.name?]
      | some name => simp [Place.origins, Place.fills, hwaiting, Origin.name?]

/-! ### Names in leaves -/

/-- The leaf is a name, or a term that begins with the name and a colon. -/
def Leaf.Shows (name : List Char) : Leaf → Prop
  | .term text => text = name ∨ ∃ rest, text = name ++ ':' :: rest
  | .phrase _ => False

theorem shows_leaf {origin : Origin} {name : List Char} (hname : origin.name? = some name) (h : IsFieldName name) :
    origin.leaf.Shows name := by
  cases origin with
  | word waiting text =>
    cases hname
    refine .inr ⟨text.filter fun c => !isControl c && !isReserved c, ?_⟩
    rw [sanitizeTerm_append h, List.filter_cons_of_pos (by decide)]
  | phrase text => cases hname
  | alone waiting =>
    cases hname
    exact .inl (sanitizeTerm_fieldName h)

theorem isFieldName_of_mem_all {cs : List Char} {origin : Origin}
    (hmem : origin ∈ Origin.all declared {} (Token.scan cs)) {name : List Char} (hname : origin.name? = some name) :
    IsFieldName name := by
  have htoken : Token.field name ∈ origin.tokens := by
    cases origin with
    | word waiting text =>
      cases hname
      exact List.mem_cons_self
    | phrase text => cases hname
    | alone waiting =>
      cases hname
      exact List.mem_cons_self
  have hscan := (Origin.tokens_all_sublist {} (Token.scan cs)).subset (List.mem_flatMap.mpr ⟨origin, hmem, htoken⟩)
  exact sound_of_mem_scan _ hscan

/-! ### A name on its own has a leaf after it -/

variable (declared) in
/-- Inside a group it does not matter how many groups are open around it. -/
theorem Place.read_of_lt {n depth : Nat} (hlt : n < depth) (waiting : Option (List Char)) {token : Token}
    (hends : Place.ends ⟨n, waiting⟩ token = false) : ∃ n' depth' waiting', n' < depth' ∧
      Place.read declared ⟨n, waiting⟩ token = ⟨n', waiting'⟩ ∧
      Place.read declared ⟨depth, waiting⟩ token = ⟨depth', waiting'⟩ := by
  cases token with
  | openGroup => exact ⟨n + 1, depth + 1, none, by omega, rfl, rfl⟩
  | closeGroup =>
    have hne : n ≠ 0 := by
      rintro rfl
      cases hends
    exact ⟨n - 1, depth - 1, none, by omega, if_neg hne, if_neg (by show depth ≠ 0; omega)⟩
  | and => exact ⟨n, depth, waiting, hlt, rfl, rfl⟩
  | or => exact ⟨n, depth, waiting, hlt, rfl, rfl⟩
  | not => exact ⟨n, depth, waiting, hlt, rfl, rfl⟩
  | field name =>
    cases hname : declared name with
    | true => exact ⟨n, depth, waiting, hlt, read_declared hname _, read_declared hname _⟩
    | false => exact ⟨n, depth, some name, hlt, read_undeclared hname _, read_undeclared hname _⟩
  | phrase text => exact ⟨n, depth, none, hlt, rfl, rfl⟩
  | word text => exact ⟨n, depth, none, hlt, rfl, rfl⟩

theorem origins_ne_nil {place : Place} {token : Token} (h : place.fills token = true) (rest : List Token) :
    place.origins declared rest token ≠ [] := by
  cases token with
  | phrase text =>
    rw [Place.origins, if_pos h]
    exact List.append_ne_nil_of_right_ne_nil _ (List.cons_ne_nil _ _)
  | word text =>
    rw [Place.origins, if_pos h]
    exact List.cons_ne_nil _ _
  | _ => cases h

theorem all_ne_nil_of_fillsGroup (tokens : List Token) : ∀ {n depth : Nat} {waiting : Option (List Char)}, n < depth →
    fillsGroup declared ⟨n, waiting⟩ tokens = true → Origin.all declared ⟨depth, waiting⟩ tokens ≠ [] := by
  induction tokens with
  | nil => exact fun _ h => nomatch h
  | cons token tokens ih =>
    intro n depth waiting hlt hfills
    simp only [fillsGroup, Bool.and_eq_true, Bool.not_eq_true', Bool.or_eq_true] at hfills
    obtain ⟨hends, htoken | hrest⟩ := hfills
    · have hhere : Place.fills ⟨depth, waiting⟩ token = true := by
        cases token <;> exact htoken
      exact List.append_ne_nil_of_left_ne_nil (origins_ne_nil hhere tokens) _
    · obtain ⟨n', depth', waiting', hlt', hn, hdepth⟩ := Place.read_of_lt declared hlt waiting hends
      rw [hn] at hrest
      rw [Origin.all, hdepth]
      exact List.append_ne_nil_of_right_ne_nil _ (ih hlt' hrest)

/-- A name on its own stands in front of another leaf. -/
theorem all_ne_alone (tokens : List Token) (name : List Char) :
    ∀ place, Origin.all declared place tokens ≠ [.alone name] := by
  induction tokens with
  | nil =>
    intro _ h
    cases h
  | cons token tokens ih =>
    intro place hsingle
    cases token with
    | openGroup =>
      rw [Origin.all, Place.origins] at hsingle
      split at hsingle
      · next hfilled =>
        have hrest : Origin.all declared (place.read declared .openGroup) tokens ≠ [] :=
          all_ne_nil_of_fillsGroup tokens (Nat.succ_pos place.depth) hfilled
        cases hwaiting : place.waiting with
        | none =>
          rw [hwaiting] at hsingle
          exact ih _ hsingle
        | some waiting =>
          rw [hwaiting] at hsingle
          exact hrest (List.cons.inj hsingle).2
      · exact ih _ hsingle
    | phrase text =>
      rw [Origin.all, Place.origins] at hsingle
      split at hsingle
      · have hmem : Origin.phrase text ∈ [Origin.alone name] := by
          rw [← hsingle]
          simp
        cases List.mem_singleton.mp hmem
      · exact ih _ hsingle
    | word text =>
      rw [Origin.all, Place.origins] at hsingle
      split at hsingle
      · cases (List.cons.inj hsingle).1
      · exact ih _ hsingle
    | _ => exact ih _ hsingle

/-- A query with a name in a leaf asks for something. -/
theorem translateText_ne_matchAll {cs : List Char} (hmatch : trim cs ≠ matchAll.toList) {origin : Origin}
    (hmem : origin ∈ Origin.all declared {} (Token.scan cs)) {name : List Char} (hname : origin.name? = some name) :
    translateText declared cs ≠ matchAll.toList := by
  intro heq
  have hleaves := leavesOf_ofText declared cs
  have hfield := isFieldName_of_mem_all hmem hname
  rcases (translateText_eq_matchAll_iff declared hmatch).mp heq with hnil | hrender
  · rw [hnil] at hleaves
    rw [List.map_eq_nil_iff.mp hleaves.symm] at hmem
    cases hmem
  · -- The only leaf would be the term of the query that matches everything, which no name leads to.
    obtain ⟨-, hone⟩ := of_render_eq_matchAll (sound_ofText declared cs).1 hrender
    rw [hone] at hleaves
    obtain ⟨single, hall, hleaf⟩ := List.map_eq_singleton_iff.mp hleaves.symm
    rw [hall, List.mem_singleton] at hmem
    subst hmem
    cases origin with
    | word waiting text =>
      cases hname
      rw [Origin.leaf, sanitizeTerm_append hfield] at hleaf
      have hcolon : ':' ∉ "__empty_searchable__".toList := by decide
      rw [← Leaf.term.inj hleaf] at hcolon
      exact hcolon (List.mem_append_right _ (List.mem_filter.mpr ⟨List.mem_cons_self, by decide⟩))
    | phrase text => cases hname
    | alone waiting => exact all_ne_alone _ _ _ hall

/-! ### The names of a query -/

/-- Exactly the undeclared names that a clause takes are in leaves of the tree, in their order: each is a term of its
    own or stands with a colon in front of one. So all undeclared names of a query are kept if and only if a clause
    takes each of them. A query of which a name is kept does not match everything. -/
theorem undeclared_names_taken (textFields : List String) (query : String) :
    let declared := declaredIn textFields
    let tokens := Token.scan query.toList
    let origins := Origin.all declared {} tokens
    let kept := origins.filterMap Origin.name?
    leavesOf (Item.ofText declared query.toList) = origins.map Origin.leaf ∧
      (∀ origin ∈ origins, ∀ name, origin.name? = some name → origin.leaf.Shows name) ∧
      kept = takenNames declared {} tokens ∧
      (kept = tokens.flatMap (Token.undeclared declared) ↔ ∀ fate ∈ nameFates declared {} tokens, fate.2 = true) ∧
      (kept ≠ [] → trim query.toList ≠ matchAll.toList → translate textFields query ≠ matchAll) := by
  intro declared tokens origins kept
  have hkept : kept = takenNames declared {} tokens := by
    have hnames := names_all declared {} tokens
    rwa [Option.toList_none, ite_self, List.nil_append] at hnames
  refine ⟨leavesOf_ofText declared query.toList, fun origin hmem name hname => ?_, hkept, ?_,
    fun hne hmatch heq => ?_⟩
  · exact shows_leaf hname (isFieldName_of_mem_all hmem hname)
  · rw [hkept]
    exact takenNames_eq_iff {} tokens
  · obtain ⟨name, hmem⟩ := List.exists_mem_of_ne_nil kept hne
    obtain ⟨origin, horigin, hname⟩ := List.mem_filterMap.mp hmem
    refine translateText_ne_matchAll hmatch horigin hname ?_
    rw [← String.toList_inj, translate, String.toList_ofList] at heq
    exact heq

/-- One name before another, one in front of a group, and one in front of the end. -/
theorem undeclared_names_taken_colorOnly :
    let query := "size: color:(\"\" red) shape:"
    let declared := declaredIn ["title"]
    let kept := (Origin.all declared {} (Token.scan query.toList)).filterMap Origin.name?
    nameFates declared {} (Token.scan query.toList) =
        [("size".toList, false), ("color".toList, true), ("shape".toList, false)] ∧
      kept = ["color".toList] ∧ trim query.toList ≠ matchAll.toList ∧ translate ["title"] query ≠ matchAll := by
  intro query declared kept
  have hkept : kept = ["color".toList] := by decide +kernel
  have hmatch : trim query.toList ≠ matchAll.toList := by decide +kernel
  obtain ⟨-, -, -, -, hasks⟩ := undeclared_names_taken ["title"] query
  have hne : kept ≠ [] := by
    rw [hkept]
    exact List.cons_ne_nil _ _
  exact ⟨by decide +kernel, hkept, hmatch, hasks hne hmatch⟩

/-- A name that nothing follows is lost, and nothing is left to ask for. -/
theorem undeclared_name_lost : Token.scan "color:".toList = [.field "color".toList] ∧
    declaredIn ["title"] "color".toList = false ∧
    leavesOf (Item.ofText (declaredIn ["title"]) "color:".toList) = [] ∧ translate ["title"] "color:" = matchAll := by
  decide +kernel

end SearchClient.Query
