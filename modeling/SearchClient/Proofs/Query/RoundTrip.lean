import SearchClient.Proofs.Query.Grammar

/-! Reading back what was written. A tree whose terms each read as one word comes back up to the groups that
    restrictions are written in, and its text is left unchanged by another translation. -/

namespace SearchClient.Query
open Text

variable {declared : List Char → Bool}

/-! ### Trees that come back -/

/-- A word that is no operator and restricts nothing: a field name before its first colon is not declared and
    has something after the colon. -/
structure ReadsAsWord (declared : List Char → Bool) (word : List Char) : Prop where
  noOperator : isOperator word = false
  noField : ∀ name rest, word = name ++ ':' :: rest → IsFieldName name → declared name = false ∧ rest ≠ []

/-- Only the field name before the first colon has to be looked at. -/
theorem readsAsWord_iff {word : List Char} : ReadsAsWord declared word ↔ isOperator word = false ∧
    ∀ parts ∈ cut? [':'] word, IsFieldName parts.1 → declared parts.1 = false ∧ parts.2 ≠ [] := by
  constructor
  · rintro ⟨hop, hfield⟩
    exact ⟨hop, fun parts hparts hname => hfield parts.1 parts.2 (cut?_eq_some hparts).1 hname⟩
  · rintro ⟨hop, hfield⟩
    refine ⟨hop, fun name rest heq hname => hfield (name, rest) ?_ hname⟩
    rw [heq]
    exact cut?_append (colon_not_mem hname) rest

instance (declared : List Char → Bool) (word : List Char) : Decidable (ReadsAsWord declared word) :=
  decidable_of_iff _ readsAsWord_iff.symm

/-- A leaf that is read as itself. -/
def Leaf.Steady (declared : List Char → Bool) : Leaf → Prop
  | .term text => IsTerm text ∧ ReadsAsWord declared text
  | .phrase text => IsPhrase text

instance (declared : List Char → Bool) : (part : Leaf) → Decidable (part.Steady declared)
  | .term _ => inferInstanceAs (Decidable (_ ∧ _))
  | .phrase text => inferInstanceAs (Decidable (IsPhrase text))

theorem Leaf.Steady.sound {part : Leaf} (h : part.Steady declared) : part.Sound := by
  cases part with
  | term text => exact h.1
  | phrase text => exact h

/-- A restricted item with more items after it is written as a group of its own: the group takes the joint,
    and the item in it keeps negation and restriction. -/
def Mark.scope (mark : Mark) (more : Bool) (clause : Mark → Item) : Item :=
  if more && mark.field.isSome then
    .group { alternative := mark.alternative } [clause { mark with alternative := false }]
  else clause mark

mutual
/-- An item with its restrictions in groups of their own; `more` tells that items follow in the same group. -/
def Item.scoped (more : Bool) : Item → Item
  | .leaf mark part => mark.scope more (.leaf · part)
  | .group mark items => mark.scope more (.group · (Item.scopedAll items))

/-- The items of a group, all restrictions but the last one's in groups of their own. -/
def Item.scopedAll : List Item → List Item
  | [] => []
  | item :: rest => item.scoped (!rest.isEmpty) :: Item.scopedAll rest
end

/-! ### The text stays the same -/

theorem alternative_scope {mark : Mark} {more : Bool} {make : Mark → Item} (hmark : ∀ m, (make m).mark = m) :
    (mark.scope more make).mark.alternative = mark.alternative := by
  unfold Mark.scope
  split
  · rfl
  · rw [hmark]

theorem alternative_scoped (more : Bool) (item : Item) :
    (item.scoped more).mark.alternative = item.mark.alternative := by
  cases item with
  | leaf mark part =>
    rw [Item.scoped]
    exact alternative_scope fun _ => rfl
  | group mark items =>
    rw [Item.scoped]
    exact alternative_scope fun _ => rfl

theorem isEmpty_scopedAll (items : List Item) : (Item.scopedAll items).isEmpty = items.isEmpty := by
  cases items <;> rfl

/-- The group around a restricted item is written as the parentheses of the restriction were. -/
theorem pieces_scope {mark : Mark} {more : Bool} {make : Mark → Item} {clause : List Piece}
    (hpieces : ∀ m b, (make m).pieces b = m.pieces b clause) :
    (mark.scope more make).pieces more = mark.pieces more clause := by
  obtain ⟨alternative, negated, field⟩ := mark
  cases more <;> cases field <;>
    simp [Mark.scope, hpieces, Item.pieces, Item.piecesAll, Item.piecesRest, Mark.pieces]

mutual
theorem pieces_scoped (more : Bool) : ∀ item : Item, (item.scoped more).pieces more = item.pieces more
  | .leaf mark part => by
    rw [Item.scoped, Item.pieces]
    exact pieces_scope fun m b => by rw [Item.pieces]
  | .group mark items => by
    rw [Item.scoped, Item.pieces]
    exact pieces_scope fun m b => by rw [Item.pieces, piecesAll_scopedAll items]

theorem piecesAll_scopedAll : ∀ items : List Item, Item.piecesAll (Item.scopedAll items) = Item.piecesAll items
  | [] => by rw [Item.scopedAll]
  | item :: rest => by
    rw [Item.scopedAll, Item.piecesAll, Item.piecesAll, isEmpty_scopedAll, pieces_scoped _ item,
      piecesRest_scopedAll rest]

theorem piecesRest_scopedAll : ∀ items : List Item, Item.piecesRest (Item.scopedAll items) = Item.piecesRest items
  | [] => by rw [Item.scopedAll]
  | item :: rest => by
    rw [Item.scopedAll, Item.piecesRest, Item.piecesRest, isEmpty_scopedAll, alternative_scoped,
      pieces_scoped _ item, piecesRest_scopedAll rest]
end

theorem render_scopedAll (items : List Item) : Item.render (Item.scopedAll items) = Item.render items := by
  unfold Item.render
  rw [piecesAll_scopedAll]

/-! ### The pieces of an item are read as the item -/

/-- The tokens that the text of a piece is read as. -/
def Piece.tokens (piece : Piece) : List Token := piece.lexemes.flatMap Token.classify

/-- The nest after the tokens of some pieces. -/
def Nest.readPieces (declared : List Char → Bool) (nest : Nest) (ps : List Piece) : Nest :=
  (ps.flatMap Piece.tokens).foldl (Nest.read declared) nest

theorem readPieces_nil (nest : Nest) : nest.readPieces declared [] = nest := rfl

theorem readPieces_append (nest : Nest) (ps qs : List Piece) :
    nest.readPieces declared (ps ++ qs) = (nest.readPieces declared ps).readPieces declared qs := by
  unfold Nest.readPieces
  rw [List.flatMap_append, List.foldl_append]

theorem readPieces_cons (nest : Nest) (p : Piece) (ps : List Piece) :
    nest.readPieces declared (p :: ps) = (p.tokens.foldl (Nest.read declared) nest).readPieces declared ps := by
  unfold Nest.readPieces
  rw [List.flatMap_cons, List.foldl_append]

/-- The pieces are read as one more item, which takes the operators that wait. -/
def ReadsAs (declared : List Char → Bool) (ps : List Piece) (make : Mark → Item) : Prop :=
  ∀ (level : Level) (outer : List Level), level.pending.undeclared = none →
    Nest.readPieces declared ⟨level, outer⟩ ps = ⟨level.push (make level.pending.mark), outer⟩

namespace ReadsAs

/-- A word is read as the term that it is, also in two tokens. -/
theorem term {text : List Char} (hterm : IsTerm text) (hword : ReadsAsWord declared text) :
    ReadsAs declared [.leaf (.term text)] (.leaf · (.term text)) := by
  intro level outer hpending
  have hself := hterm.sanitizeTerm_eq
  have hne := hterm.nonempty
  have htokens : Piece.tokens (.leaf (.term text)) = Token.ofWord text := List.append_nil _
  rw [readPieces_cons, readPieces_nil, htokens]
  rcases ofWord_cases text with hop | ⟨name, rest, hop, rfl, hname⟩ | ⟨hop, hplain⟩
  · rw [hword.noOperator] at hop
    cases hop
  · obtain ⟨hdeclared, hrest⟩ := hword.noField name rest rfl hname
    rw [ofWord_field hop hname, if_neg (by simpa using hrest)]
    simp [Nest.read, Level.readField, hdeclared, Level.pushWord, hself, Level.push]
  · rw [ofWord_plain hop hplain]
    simp [Nest.read, Level.pushWord, hpending, hself, hne]

theorem phrase {text : List Char} (h : IsPhrase text) :
    ReadsAs declared [.leaf (.phrase text)] (.leaf · (.phrase text)) := by
  intro level outer hpending
  show (⟨level.pushPhrase text, outer⟩ : Nest) = _
  simp [Level.pushPhrase, h.safe, h.notBlank, Pending.undeclaredTerm?, hpending]

theorem group {ps : List Piece} {items : List Item} (hne : items ≠ [])
    (h : ∀ outer, Nest.readPieces declared ⟨{}, outer⟩ ps = ⟨{ items }, outer⟩) :
    ReadsAs declared (.openGroup :: ps ++ [.closeGroup]) (.group · items) := by
  intro level outer hpending
  have hempty : items.isEmpty = false := by simpa using hne
  rw [List.cons_append, readPieces_cons, readPieces_append]
  -- The items are read on a fresh level; the closing parenthesis takes it as a group to the level below.
  show ((Nest.readPieces declared ⟨{}, level :: outer⟩ ps).readPieces declared [.closeGroup]) = _
  rw [h]
  show (⟨level.pushGroup items, outer⟩ : Nest) = _
  simp [Level.pushGroup, hempty, Pending.undeclaredTerm?, hpending]

theorem negation {clause : List Piece} {make : Mark → Item} (h : ReadsAs declared clause make) :
    ReadsAs declared (.negation :: clause) fun mark => make { mark with negated := true } := by
  intro level outer hpending
  rw [readPieces_cons]
  exact h level.readNot outer hpending

theorem marker {name : List Char} (hname : declared name = true) {clause : List Piece} {make : Mark → Item}
    (h : ReadsAs declared clause make) :
    ReadsAs declared (.marker name :: clause) fun mark => make { mark with field := some name } := by
  intro level outer hpending
  have hread : Level.readField declared level name =
      { level with pending := { level.pending with mark := { level.pending.mark with field := some name } } } :=
    if_pos hname
  rw [readPieces_cons]
  show Nest.readPieces declared ⟨level.readField declared name, outer⟩ clause = _
  rw [hread]
  exact h _ outer hpending

/-- The last item of a group is read with its mark, when the joint in front of it has been read. -/
theorem last {mark : Mark} (hmark : mark.Fits (IsDeclared declared)) {clause : List Piece} {make : Mark → Item}
    (h : ReadsAs declared clause make) {level : Level}
    (hpending : level.pending = { mark := { alternative := mark.alternative } }) (outer : List Level) :
    Nest.readPieces declared ⟨level, outer⟩ (mark.pieces false clause) = ⟨level.push (make mark), outer⟩ := by
  have hnone : level.pending.undeclared = none := by rw [hpending]
  obtain ⟨alternative, negated, field⟩ := mark
  cases field with
  | none =>
    cases negated
    · have := h level outer hnone
      rwa [hpending] at this
    · have := h.negation level outer hnone
      rwa [hpending] at this
  | some name =>
    have hname := (hmark name rfl).2
    cases negated
    · have := h.marker hname level outer hnone
      rwa [hpending] at this
    · have := h.negation.marker hname level outer hnone
      rwa [hpending] at this

/-- An item with more items after it is read in a group of its own if it is restricted. -/
theorem item {mark : Mark} (hmark : mark.Fits (IsDeclared declared)) (more : Bool) {clause : List Piece}
    {make : Mark → Item} (h : ReadsAs declared clause make) {level : Level}
    (hpending : level.pending = { mark := { alternative := mark.alternative } }) (outer : List Level) :
    Nest.readPieces declared ⟨level, outer⟩ (mark.pieces more clause) =
      ⟨level.push (mark.scope more make), outer⟩ := by
  cases more with
  | false => exact h.last hmark hpending outer
  | true =>
    cases hfield : mark.field with
    | none =>
      have hpieces : mark.pieces true clause = mark.pieces false clause := by simp [Mark.pieces, hfield]
      have hscope : mark.scope true make = make mark := by simp [Mark.scope, hfield]
      rw [hpieces, hscope]
      exact h.last hmark hpending outer
    | some name =>
      have hpieces : mark.pieces true clause =
          .openGroup :: Mark.pieces { mark with alternative := false } false clause ++ [.closeGroup] := by
        simp [Mark.pieces, hfield]
      have hscope : mark.scope true make =
          .group { alternative := mark.alternative } [make { mark with alternative := false }] := by
        simp [Mark.scope, hfield]
      have hfits : Mark.Fits (IsDeclared declared) { mark with alternative := false } := hmark
      have hinner : ∀ outer, Nest.readPieces declared ⟨{}, outer⟩
          (Mark.pieces { mark with alternative := false } false clause) =
            ⟨{ items := [make { mark with alternative := false }] }, outer⟩ := fun outer =>
        h.last hfits rfl outer
      have := group (List.cons_ne_nil _ _) hinner level outer (by rw [hpending])
      rw [hpending, ← hpieces] at this
      rw [hscope]
      exact this

end ReadsAs

/-- Reading an item after its joint adds the item, with its restrictions in groups of their own. -/
def Item.Returns (declared : List Char → Bool) (item : Item) : Prop :=
  ∀ (more : Bool) (level : Level) (outer : List Level),
    level.pending = { mark := { alternative := item.mark.alternative } } →
    Nest.readPieces declared ⟨level, outer⟩ (item.pieces more) = ⟨level.push (item.scoped more), outer⟩

theorem readPieces_piecesRest {items : List Item} (h : ∀ item ∈ items, item.Returns declared) :
    ∀ (before : List Item) (outer : List Level), before ≠ [] →
      Nest.readPieces declared ⟨{ items := before }, outer⟩ (Item.piecesRest items) =
        ⟨{ items := before ++ Item.scopedAll items }, outer⟩ := by
  induction items with
  | nil =>
    intro before outer _
    rw [Item.piecesRest, Item.scopedAll, List.append_nil, readPieces_nil]
  | cons item items ih =>
    intro before outer hbefore
    obtain ⟨hitem, hitems⟩ := List.forall_mem_cons.mp h
    -- The joint leaves the mark of the next item waiting; something stands before it.
    have hjoint : (Piece.tokens (.joint item.mark.alternative)).foldl (Nest.read declared)
        ⟨{ items := before }, outer⟩ =
          ⟨{ items := before, pending := { mark := { alternative := item.mark.alternative } } }, outer⟩ := by
      cases item.mark.alternative
      · rfl
      · simp [Piece.tokens, Piece.lexemes, Token.classify, Nest.read, Level.readOr, hbefore]
    rw [Item.piecesRest, List.cons_append, readPieces_cons, hjoint, readPieces_append, hitem _ _ outer rfl]
    show Nest.readPieces declared ⟨{ items := before ++ [item.scoped (!items.isEmpty)] }, outer⟩ _ = _
    rw [ih hitems _ outer (by simp), Item.scopedAll, List.append_assoc]
    rfl

theorem readPieces_piecesAll {items : List Item} (hopens : Opens items) (h : ∀ item ∈ items, item.Returns declared)
    (outer : List Level) : Nest.readPieces declared ⟨{}, outer⟩ (Item.piecesAll items) =
      ⟨{ items := Item.scopedAll items }, outer⟩ := by
  cases items with
  | nil => rw [Item.piecesAll, Item.scopedAll, readPieces_nil]
  | cons item items =>
    obtain ⟨hitem, hitems⟩ := List.forall_mem_cons.mp h
    have hfirst : item.mark.alternative = false := hopens item rfl
    rw [Item.piecesAll, readPieces_append, hitem _ {} outer (by rw [hfirst])]
    show Nest.readPieces declared ⟨{ items := [item.scoped (!items.isEmpty)] }, outer⟩ _ = _
    rw [readPieces_piecesRest hitems _ outer (by simp), Item.scopedAll]
    rfl

/-- A tree that the daemon's syntax can write and whose terms read as words. -/
def Item.Steady (declared : List Char → Bool) : Item → Prop :=
  Item.Formed (IsDeclared declared) (Leaf.Steady declared)

theorem returns_of_steady {item : Item} (h : item.Steady declared) : item.Returns declared := by
  induction h with
  | @leaf mark part hmark hpart =>
    intro more level outer hpending
    have hreads : ReadsAs declared [.leaf part] (.leaf · part) := by
      cases part with
      | term text => exact .term hpart.1 hpart.2
      | phrase text => exact .phrase hpart
    rw [Item.pieces, Item.scoped]
    exact hreads.item hmark more hpending outer
  | @group mark items hmark hne hopens _ ih =>
    intro more level outer hpending
    have hscoped : Item.scopedAll items ≠ [] := fun hnil => by
      have := isEmpty_scopedAll items
      rw [hnil] at this
      exact hne (List.isEmpty_iff.mp this.symm)
    rw [Item.pieces, Item.scoped]
    exact (ReadsAs.group hscoped (readPieces_piecesAll hopens ih)).item hmark more hpending outer

/-! ### Round trip -/

theorem Item.Steady.sound {item : Item} (h : item.Steady declared) : item.Sound declared :=
  h.mono (fun _ hname => hname) fun _ hpart => hpart.sound

/-- The tokens of a tree's text are those of its pieces. -/
theorem scan_render {items : List Item} (h : ∀ item ∈ items, item.Sound declared) :
    Token.scan (Item.render items) = (Item.piecesAll items).flatMap Piece.tokens := by
  rw [scan_eq_flatMap_lexemes, lexemes_render fun item hitem => (h item hitem).writable, List.flatMap_assoc]
  rfl

theorem ofText_render {items : List Item} (hopens : Opens items) (h : ∀ item ∈ items, item.Steady declared) :
    Item.ofText declared (Item.render items) = Item.scopedAll items := by
  have hread := readPieces_piecesAll hopens (fun item hitem => returns_of_steady (h item hitem)) []
  unfold Item.ofText Item.ofTokens
  rw [scan_render fun item hitem => (h item hitem).sound]
  show (Nest.readPieces declared ⟨{}, []⟩ (Item.piecesAll items)).items = _
  rw [hread]
  rfl

/-- A trimmed text is translated by its tree, unless it is the query that matches everything. -/
theorem translateText_of_trimmed {cs : List Char} (h : Trimmed cs) :
    translateText declared cs = if cs = matchAll.toList then matchAll.toList
      else if Item.render (Item.ofText declared cs) = [] then matchAll.toList
      else Item.render (Item.ofText declared cs) := by
  have hempty : cs.isEmpty = false := by simpa using h.ne_nil
  simp only [translateText, h.trim_eq, hempty, Bool.false_or, beq_iff_eq, List.isEmpty_iff]

theorem translateText_render {items : List Item} (hne : items ≠ []) (hopens : Opens items)
    (h : ∀ item ∈ items, item.Steady declared) :
    translateText declared (Item.render items) = Item.render items := by
  have htrimmed := (isItems_render hne fun item hitem => (h item hitem).sound).trimmed
  have hback : Item.render (Item.ofText declared (Item.render items)) = Item.render items := by
    rw [ofText_render hopens h, render_scopedAll]
  rw [translateText_of_trimmed htrimmed, hback, if_neg htrimmed.ne_nil]
  split
  · next hmatch => exact hmatch.symm
  · rfl

/-- The text of a tree is read back as the tree, with its restrictions in groups of their own, and another
    translation leaves it unchanged. -/
theorem render_round_trip (textFields : List String) {items : List Item} (hne : items ≠ []) (hopens : Opens items)
    (h : ∀ item ∈ items, item.Steady (declaredIn textFields)) :
    Item.ofText (declaredIn textFields) (Item.render items) = Item.scopedAll items ∧
      translate textFields (String.ofList (Item.render items)) = String.ofList (Item.render items) := by
  refine ⟨ofText_render hopens h, ?_⟩
  rw [translate, String.toList_ofList, translateText_render hne hopens h]

/-- A restricted first item and a negated group with a colon in a term. -/
theorem render_round_trip_scoped :
    let items : List Item :=
      [.leaf { field := some "title".toList } (.term "dog".toList),
        .group { alternative := true, negated := true }
          [.leaf {} (.term "price:10".toList), .leaf { alternative := true } (.phrase "big fish".toList)]]
    (∀ item ∈ items, item.Steady (declaredIn ["title"])) ∧
      Item.ofText (declaredIn ["title"]) (Item.render items) = Item.scopedAll items ∧
      translate ["title"] (String.ofList (Item.render items)) = String.ofList (Item.render items) := by
  intro items
  have hopens : Opens items := fun first hfirst => by
    cases hfirst
    rfl
  have hdog : Item.Steady (declaredIn ["title"])
      (.leaf { field := some "title".toList } (.term "dog".toList)) := by
    refine .leaf (fun name hname => ?_) (by decide +kernel)
    cases hname
    decide +kernel
  have hgroup : Item.Steady (declaredIn ["title"]) (.group { alternative := true, negated := true }
      [.leaf {} (.term "price:10".toList), .leaf { alternative := true } (.phrase "big fish".toList)]) := by
    refine .group fits_default (List.cons_ne_nil _ _) (fun first hfirst => ?_) ?_
    · cases hfirst
      rfl
    · refine List.forall_mem_cons.mpr ⟨.leaf fits_default (by decide +kernel), ?_⟩
      exact List.forall_mem_singleton.mpr (.leaf (fun _ h => nomatch h) (by decide +kernel))
  have hsteady : ∀ item ∈ items, item.Steady (declaredIn ["title"]) :=
    List.forall_mem_cons.mpr ⟨hdog, List.forall_mem_singleton.mpr hgroup⟩
  exact ⟨hsteady, render_round_trip ["title"] (List.cons_ne_nil _ _) hopens hsteady⟩

end SearchClient.Query
