import SearchClient.Query.Translate

/-! Where field restrictions hold. The daemon reads a query piece by piece: a marker holds until the end of its
    group and in the groups opened inside it, and a closing parenthesis brings back what held before. So read,
    the pieces of a tree restrict each leaf as the tree does, where the field of an item covers its own clause. -/

namespace SearchClient.Query

/-! ### How the daemon reads restrictions -/

/-- The restriction in force, and those in force around the open groups, from the inside out. -/
structure Scope where
  field : Option (List Char) := none
  outer : List (Option (List Char)) := []

/-- Opens a group, which inherits the restriction. -/
def Scope.enter (scope : Scope) : Scope := { scope with outer := scope.field :: scope.outer }

/-- Closes a group: what was in force around it is in force again. -/
def Scope.leave (scope : Scope) : Scope :=
  match scope.outer with
  | [] => scope
  | field :: outer => { field, outer }

def Scope.read (scope : Scope) : Piece → Scope
  | .openGroup => scope.enter
  | .closeGroup => scope.leave
  | .marker name => { scope with field := some name }
  | .negation | .joint _ | .leaf _ => scope

/-- The leaves among some pieces, each with the restriction in force where it stands. -/
def Scope.leaves (scope : Scope) : List Piece → List (Leaf × Option (List Char))
  | [] => []
  | .leaf part :: rest => (part, scope.field) :: scope.leaves rest
  | piece :: rest => (scope.read piece).leaves rest

/-! ### What a tree restricts -/

mutual
/-- The leaves of an item, each with its restriction: the item's own, or else the one it inherits. -/
def Item.leaves (inherited : Option (List Char)) : Item → List (Leaf × Option (List Char))
  | .leaf mark part => [(part, mark.field <|> inherited)]
  | .group mark items => Item.leavesAll (mark.field <|> inherited) items

/-- The leaves of the items of a group, all of which inherit the restriction of the group. -/
def Item.leavesAll (inherited : Option (List Char)) : List Item → List (Leaf × Option (List Char))
  | [] => []
  | item :: rest => item.leaves inherited ++ Item.leavesAll inherited rest
end

/-! ### Reading pieces one after another -/

theorem leave_eq {scope around : Scope} (h : scope.outer = around.enter.outer) : scope.leave = around := by
  unfold Scope.leave
  rw [h]
  rfl

theorem leaves_append (ps qs : List Piece) :
    ∀ scope : Scope, scope.leaves (ps ++ qs) = scope.leaves ps ++ (ps.foldl Scope.read scope).leaves qs := by
  induction ps with
  | nil => exact fun _ => rfl
  | cons p ps ih =>
    intro scope
    cases p <;> simp [Scope.leaves, Scope.read, ih]

/-- The pieces are read as some leaves, which depend on the restriction in force in front of them only, and no
    group around them is closed. What they leave in force may be another restriction. -/
structure ReadsLeaves (ps : List Piece) (leaves : Option (List Char) → List (Leaf × Option (List Char))) :
    Prop where
  leaves : ∀ scope : Scope, scope.leaves ps = leaves scope.field
  outer : ∀ scope : Scope, (ps.foldl Scope.read scope).outer = scope.outer

/-- The pieces leave the restriction in force that was in force in front of them. -/
def KeepsScope (ps : List Piece) : Prop := ∀ scope : Scope, ps.foldl Scope.read scope = scope

namespace ReadsLeaves
variable {ps qs : List Piece} {leaves leaves' : Option (List Char) → List (Leaf × Option (List Char))}

theorem nil : ReadsLeaves [] fun _ => [] := ⟨fun _ => rfl, fun _ => rfl⟩

theorem leaf (part : Leaf) : ReadsLeaves [.leaf part] fun field => [(part, field)] := ⟨fun _ => rfl, fun _ => rfl⟩

theorem joint (alternative : Bool) (h : ReadsLeaves ps leaves) : ReadsLeaves (.joint alternative :: ps) leaves :=
  ⟨h.leaves, h.outer⟩

theorem negated (negated : Bool) (h : ReadsLeaves ps leaves) :
    ReadsLeaves (if negated then .negation :: ps else ps) leaves := by
  cases negated with
  | false => exact h
  | true => exact ⟨h.leaves, h.outer⟩

theorem marker (name : List Char) (h : ReadsLeaves ps leaves) :
    ReadsLeaves (.marker name :: ps) fun _ => leaves (some name) :=
  ⟨fun scope => h.leaves { scope with field := some name }, fun scope => h.outer { scope with field := some name }⟩

theorem append (h : ReadsLeaves ps leaves) (hkeeps : KeepsScope ps) (h' : ReadsLeaves qs leaves') :
    ReadsLeaves (ps ++ qs) fun field => leaves field ++ leaves' field where
  leaves scope := by rw [leaves_append, h.leaves, hkeeps, h'.leaves]
  outer scope := by rw [List.foldl_append, hkeeps, h'.outer]

/-- The parenthesis that closes a group takes back what the pieces in it have put in force. -/
theorem keepsScope_group (h : ReadsLeaves ps leaves) : KeepsScope (.openGroup :: ps ++ [.closeGroup]) := by
  intro scope
  rw [List.cons_append, List.foldl_cons, List.foldl_append]
  exact leave_eq (h.outer scope.enter)

theorem group (h : ReadsLeaves ps leaves) : ReadsLeaves (.openGroup :: ps ++ [.closeGroup]) leaves where
  leaves scope := by
    rw [List.cons_append]
    show scope.enter.leaves (ps ++ [.closeGroup]) = leaves scope.field
    rw [leaves_append, h.leaves]
    exact List.append_nil _
  outer scope := by rw [h.keepsScope_group]

/-- A marked clause is read under the restriction of the mark. -/
theorem mark (mark : Mark) (more : Bool) (h : ReadsLeaves ps leaves) :
    ReadsLeaves (mark.pieces more ps) fun field => leaves (mark.field <|> field) := by
  obtain ⟨alternative, negated, field⟩ := mark
  cases field with
  | none => exact h.negated negated
  | some name =>
    cases more with
    | false => exact (h.negated negated).marker name
    | true => exact ((h.negated negated).marker name).group

/-- A marked clause with more clauses after it leaves no restriction behind, since it has a group of its own
    if it has a restriction. -/
theorem keepsScope_mark (mark : Mark) (h : ReadsLeaves ps leaves) (hkeeps : KeepsScope ps) :
    KeepsScope (mark.pieces true ps) := by
  obtain ⟨alternative, negated, field⟩ := mark
  cases field with
  | none => cases negated <;> exact hkeeps
  | some name => exact ((h.negated negated).marker name).keepsScope_group

end ReadsLeaves

/-! ### The pieces of a tree -/

/-- The pieces of an item are read as its leaves, and leave no restriction behind if more items follow. -/
structure ReadsItem (item : Item) : Prop where
  leaves : ∀ more, ReadsLeaves (item.pieces more) (item.leaves ·)
  keeps : KeepsScope (item.pieces true)

/-- Only the last item of a group is written without a group around its restriction. -/
theorem ReadsItem.followed {item : Item} (h : ReadsItem item) {rest : List Item}
    (hrest : ReadsLeaves (Item.piecesRest rest) (Item.leavesAll · rest)) :
    ReadsLeaves (item.pieces (!rest.isEmpty) ++ Item.piecesRest rest) (Item.leavesAll · (item :: rest)) := by
  simp only [Item.leavesAll]
  cases rest with
  | nil =>
    simp only [Item.piecesRest, Item.leavesAll, List.append_nil]
    exact h.leaves false
  | cons next rest => exact (h.leaves true).append h.keeps hrest

mutual
theorem readsItem : ∀ item : Item, ReadsItem item
  | .leaf mark part => by
    have hclause := ReadsLeaves.leaf part
    refine ⟨fun more => ?_, ?_⟩
    · rw [Item.pieces]
      simp only [Item.leaves]
      exact hclause.mark mark more
    · rw [Item.pieces]
      exact hclause.keepsScope_mark mark fun _ => rfl
  | .group mark items => by
    have hclause := readsLeaves_piecesAll items
    refine ⟨fun more => ?_, ?_⟩
    · rw [Item.pieces]
      simp only [Item.leaves]
      exact hclause.group.mark mark more
    · rw [Item.pieces]
      exact hclause.group.keepsScope_mark mark hclause.keepsScope_group

theorem readsLeaves_piecesAll : ∀ items : List Item, ReadsLeaves (Item.piecesAll items) (Item.leavesAll · items)
  | [] => by
    simp only [Item.piecesAll, Item.leavesAll]
    exact .nil
  | item :: rest => by
    rw [Item.piecesAll]
    exact (readsItem item).followed (readsLeaves_piecesRest rest)

theorem readsLeaves_piecesRest : ∀ items : List Item, ReadsLeaves (Item.piecesRest items) (Item.leavesAll · items)
  | [] => by
    simp only [Item.piecesRest, Item.leavesAll]
    exact .nil
  | item :: rest => by
    rw [Item.piecesRest]
    exact ((readsItem item).followed (readsLeaves_piecesRest rest)).joint item.mark.alternative
end

/-- The text of a tree is that of its pieces, and reading these as the daemon does gives the leaves of the tree in order,
    each restricted as the tree restricts it. -/
theorem leaves_piecesAll (items : List Item) :
    Item.render items = (Item.piecesAll items).flatMap Piece.text ∧
    Scope.leaves {} (Item.piecesAll items) = Item.leavesAll none items :=
  ⟨rfl, (readsLeaves_piecesAll items).leaves {}⟩

/-- `a:(x b:y) | z` -/
example : Item.leavesAll none
    [.group { field := some ['a'] } [.leaf {} (.term ['x']), .leaf { field := some ['b'] } (.term ['y'])],
      .leaf { alternative := true } (.term ['z'])] =
    [(.term ['x'], some ['a']), (.term ['y'], some ['b']), (.term ['z'], none)] := by decide

/-- A query that is sent matches every document, or is written in pieces that restrict the leaves of the user's query
    as its syntax tree does. -/
theorem exists_pieces_translateText (declared : List Char → Bool) (cs : List Char) :
    translateText declared cs = matchAll.toList ∨
    ∃ ps : List Piece, translateText declared cs = ps.flatMap Piece.text ∧
      Scope.leaves {} ps = Item.leavesAll none (Item.ofText declared cs) := by
  unfold translateText
  dsimp only
  split
  · exact .inl rfl
  · split
    · exact .inl rfl
    · exact .inr ⟨Item.piecesAll (Item.ofText declared cs), rfl, (readsLeaves_piecesAll _).leaves {}⟩

end SearchClient.Query
