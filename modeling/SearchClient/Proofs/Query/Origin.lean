import SearchClient.Proofs.Query.Restriction
import SearchClient.Proofs.Query.Stability

/-! Where the leaves of a syntax tree come from. The tokens of a query are read once more, without a tree: all
    that is kept between two tokens is how many groups are open and which undeclared name waits. So read, each
    token tells which leaves it leads to, and these are the leaves of the tree, in the same order. A word or a
    phrase that asks for something leads to exactly one leaf; every other leaf is made of an undeclared name. -/

namespace SearchClient.Query
open Text

variable {declared : List Char → Bool}

/-! ### Reading tokens without a tree -/

/-- What a leaf is made of. -/
inductive Origin where
  /-- A word, with the undeclared name that waited in front of it. -/
  | word (name : Option (List Char)) (text : List Char)
  | phrase (text : List Char)
  /-- An undeclared name on its own, in front of a phrase or a group. -/
  | alone (name : List Char)
deriving DecidableEq

def Origin.leaf : Origin → Leaf
  | .word none text => .term (sanitizeTerm text)
  | .word (some name) text => .term (sanitizeTerm (name ++ ':' :: text))
  | .phrase text => .phrase (sanitizeText text)
  | .alone name => .term (sanitizeTerm name)

/-- A place between two tokens: how many groups are open there, and the undeclared name that waits. -/
structure Place where
  depth : Nat := 0
  waiting : Option (List Char) := none

/-- The place after a token. A clause takes the name that waits, and a group that ends forgets it. -/
def Place.read (declared : List Char → Bool) (place : Place) : Token → Place
  | .openGroup => { depth := place.depth + 1 }
  | .closeGroup => if place.depth = 0 then place else { depth := place.depth - 1 }
  | .field name => if declared name then place else { place with waiting := some name }
  | .phrase _ | .word _ => { place with waiting := none }
  | .and | .or | .not => place

theorem Place.read_declared {name : List Char} (h : declared name = true) (place : Place) :
    place.read declared (.field name) = place := if_pos h

theorem Place.read_undeclared {name : List Char} (h : declared name = false) (place : Place) :
    place.read declared (.field name) = { place with waiting := some name } := if_neg (by simp [h])

/-- Whether a token is a word or a phrase of which something is left to search for. -/
def Token.asks : Token → Bool
  | .word text => !(sanitizeTerm text).isEmpty
  | .phrase text => !isBlankText (sanitizeText text)
  | _ => false

/-- Whether a token becomes a leaf; behind an undeclared name every word does. -/
def Place.fills (place : Place) : Token → Bool
  | .word text => place.waiting.isSome || Token.asks (.word text)
  | token => token.asks

/-- Whether a token ends the group that is followed from depth 0 on. -/
def Place.ends (place : Place) (token : Token) : Bool := token == .closeGroup && place.depth == 0

/-- Whether a group gets a leaf from the tokens after it was opened, before it ends. -/
def fillsGroup (declared : List Char → Bool) : Place → List Token → Bool
  | _, [] => false
  | place, token :: rest =>
    !place.ends token && (place.fills token || fillsGroup declared (place.read declared token) rest)

/-- The origins of leaves that a token leads to; whether a group has any depends on the tokens after it. -/
def Place.origins (declared : List Char → Bool) (place : Place) (rest : List Token) : Token → List Origin
  | .word text => if place.fills (.word text) then [.word place.waiting text] else []
  | .phrase text => if place.fills (.phrase text) then place.waiting.toList.map .alone ++ [.phrase text] else []
  | .openGroup => if fillsGroup declared {} rest then place.waiting.toList.map .alone else []
  | _ => []

def Origin.all (declared : List Char → Bool) : Place → List Token → List Origin
  | _, [] => []
  | place, token :: rest =>
    place.origins declared rest token ++ Origin.all declared (place.read declared token) rest

/-! ### The leaves of items -/

def leavesOf (items : List Item) : List Leaf := (Item.leavesAll none items).map (·.1)

mutual
theorem map_fst_leaves (inherited : Option (List Char)) :
    ∀ item : Item, (item.leaves inherited).map (·.1) = (item.leaves none).map (·.1)
  | .leaf mark part => by rw [Item.leaves, Item.leaves, List.map_singleton, List.map_singleton]
  | .group mark items => by rw [Item.leaves, Item.leaves, map_fst_leavesAll, ← map_fst_leavesAll (mark.field <|> none)]

theorem map_fst_leavesAll (inherited : Option (List Char)) :
    ∀ items : List Item, (Item.leavesAll inherited items).map (·.1) = leavesOf items
  | [] => by rw [leavesOf, Item.leavesAll, Item.leavesAll]
  | item :: rest => by
    rw [leavesOf, Item.leavesAll, Item.leavesAll, List.map_append, List.map_append, map_fst_leaves, map_fst_leavesAll]
    rfl
end

theorem leavesOf_nil : leavesOf [] = [] := by rw [leavesOf, Item.leavesAll, List.map_nil]

theorem leavesOf_cons (item : Item) (items : List Item) :
    leavesOf (item :: items) = leavesOf [item] ++ leavesOf items := by
  simp only [leavesOf, Item.leavesAll, List.map_append, List.append_nil]

theorem leavesOf_append (items rest : List Item) : leavesOf (items ++ rest) = leavesOf items ++ leavesOf rest := by
  induction items with
  | nil => rw [leavesOf_nil, List.nil_append, List.nil_append]
  | cons item items ih => rw [List.cons_append, leavesOf_cons, ih, leavesOf_cons item items, List.append_assoc]

theorem leavesOf_leaf (mark : Mark) (part : Leaf) : leavesOf [.leaf mark part] = [part] := by
  simp only [leavesOf, Item.leavesAll, Item.leaves, List.append_nil, List.map_singleton]

theorem leavesOf_group (mark : Mark) (items : List Item) : leavesOf [.group mark items] = leavesOf items := by
  rw [leavesOf, Item.leavesAll, Item.leaves, Item.leavesAll, List.append_nil, map_fst_leavesAll]

/-- A tree without leaves is no tree: its groups have items. -/
theorem leavesOf_ne_nil {F : List Char → Prop} {L : Leaf → Prop} {item : Item} (h : item.Formed F L) :
    leavesOf [item] ≠ [] := by
  induction h with
  | leaf =>
    rw [leavesOf_leaf]
    exact List.cons_ne_nil _ _
  | @group mark items _ hne _ _ ih =>
    obtain ⟨item, rest, rfl⟩ := List.exists_cons_of_ne_nil hne
    rw [leavesOf_group, leavesOf_cons]
    exact List.append_ne_nil_of_left_ne_nil (ih item List.mem_cons_self) _

/-! ### Clauses on an open group -/

/-- The leaf of the undeclared name that waits, if one does. -/
def Level.nameLeaves (level : Level) : List Leaf :=
  level.pending.undeclared.toList.map fun name => .term (sanitizeTerm name)

/-- A clause has been taken: it adds some leaves, none of them if it is blank, and no name waits any more. -/
structure Level.Takes (level : Level) (leaves : List Leaf) (fills : Bool) (level' : Level) : Prop where
  leaves : leavesOf level'.items = leavesOf level.items ++ leaves
  isEmpty : level'.items.isEmpty = (level.items.isEmpty && !fills)
  undeclared : level'.pending.undeclared = none

namespace Level
variable {level : Level}

theorem takes_forget (level : Level) : level.Takes [] false level.forget where
  leaves := (List.append_nil _).symm
  isEmpty := by rw [Bool.not_false, Bool.and_true, forget]
  undeclared := rfl

theorem takes_push (level : Level) (item : Item) : level.Takes (leavesOf [item]) true (level.push item) where
  leaves := leavesOf_append level.items [item]
  isEmpty := by simp [push]
  undeclared := rfl

/-- Something is always left of an undeclared name. -/
theorem undeclaredTerm?_eq (h : level.Sound declared) : level.pending.undeclaredTerm? = level.pending.undeclared := by
  unfold Pending.undeclaredTerm?
  cases hname : level.pending.undeclared with
  | none => rfl
  | some name =>
    have hfield := h.undeclared name hname
    simp [sanitizeTerm_fieldName hfield, hfield.nonempty]

theorem nameLeaves_eq (h : level.Sound declared) :
    level.nameLeaves = level.pending.undeclaredTerm?.toList.map fun term => .term term := by
  rw [undeclaredTerm?_eq h, nameLeaves]
  refine List.map_congr_left fun name hname => ?_
  rw [sanitizeTerm_fieldName (h.undeclared name (by simpa using hname))]

theorem takes_pushGroup (h : level.Sound declared) (items : List Item) :
    level.Takes (if items.isEmpty then [] else level.nameLeaves ++ leavesOf items) (!items.isEmpty)
      (level.pushGroup items) := by
  unfold pushGroup
  cases hempty : items.isEmpty with
  | true => exact level.takes_forget
  | false =>
    rw [nameLeaves_eq h]
    cases level.pending.undeclaredTerm? with
    | none =>
      have := level.takes_push (.group level.pending.mark items)
      rwa [leavesOf_group] at this
    | some term =>
      have := level.takes_push (.group level.pending.mark (.plain (.term term) :: items))
      rwa [leavesOf_group, leavesOf_cons, Item.plain, leavesOf_leaf] at this

theorem takes_pushPhrase (h : level.Sound declared) (text : List Char) :
    level.Takes (if Token.asks (.phrase text) then level.nameLeaves ++ [.phrase (sanitizeText text)] else [])
      (Token.asks (.phrase text)) (level.pushPhrase text) := by
  unfold pushPhrase Token.asks
  cases hblank : isBlankText (sanitizeText text) with
  | true => simpa [hblank] using level.takes_forget
  | false =>
    rw [nameLeaves_eq h]
    cases level.pending.undeclaredTerm? with
    | none =>
      have := level.takes_push (.leaf level.pending.mark (.phrase (sanitizeText text)))
      simpa [hblank, leavesOf_leaf] using this
    | some term =>
      have := level.takes_push
        (.group level.pending.mark [.plain (.term term), .plain (.phrase (sanitizeText text))])
      rw [leavesOf_group, leavesOf_cons, Item.plain, Item.plain, leavesOf_leaf, leavesOf_leaf] at this
      simpa [hblank, Item.plain] using this

/-- Behind an undeclared name a word always leaves a term. -/
theorem takes_pushWord (h : level.Sound declared) (text : List Char) :
    level.Takes (if level.pending.undeclared.isSome || Token.asks (.word text)
        then [Origin.leaf (.word level.pending.undeclared text)] else [])
      (level.pending.undeclared.isSome || Token.asks (.word text)) (level.pushWord text) := by
  unfold pushWord Token.asks
  cases hname : level.pending.undeclared with
  | none =>
    cases hempty : (sanitizeTerm text).isEmpty with
    | true => simpa [hempty] using level.takes_forget
    | false =>
      have := level.takes_push (.leaf level.pending.mark (.term (sanitizeTerm text)))
      simpa [hempty, leavesOf_leaf, Origin.leaf] using this
  | some name =>
    have hfield := h.undeclared name hname
    have hne : sanitizeTerm (name ++ ':' :: text) ≠ [] := by
      rw [sanitizeTerm_append hfield]
      exact List.append_ne_nil_of_left_ne_nil hfield.nonempty _
    have := level.takes_push (.leaf level.pending.mark (.term (sanitizeTerm (name ++ ':' :: text))))
    simpa [hne, leavesOf_leaf, Origin.leaf] using this

end Level

/-! ### The leaves of all open groups -/

/-- The leaves of the groups around the innermost one, from the outside in, when `filled n` tells whether the
    group inside the `n`-th of them gets a leaf: only then does the name in front of it count. -/
def outerLeaves : (Nat → Bool) → List Level → List Leaf
  | _, [] => []
  | filled, level :: outer =>
    outerLeaves (fun n => filled (n + 1) || !level.items.isEmpty) outer ++
      (leavesOf level.items ++ if filled 0 then level.nameLeaves else [])

/-- Ending the innermost group leaves all leaves where they are. -/
theorem outerLeaves_pushGroup {level : Level} (h : level.Sound declared) {filled : Nat → Bool} {items : List Item}
    (hfilled : filled 0 = !items.isEmpty) (outer : List Level) :
    outerLeaves filled (level :: outer) ++ leavesOf items =
      outerLeaves (fun n => filled (n + 1) || !level.items.isEmpty) outer ++
        leavesOf (level.pushGroup items).items := by
  rw [outerLeaves, (Level.takes_pushGroup h items).leaves, hfilled]
  cases items with
  | nil => simp [leavesOf_nil]
  | cons item items => simp

/-- At the end of the tokens all open groups end. -/
theorem leavesOf_items : ∀ (inner : Level) (outer : List Level), (∀ level ∈ outer, level.Sound declared) →
    leavesOf (Nest.items ⟨inner, outer⟩) =
      outerLeaves (fun _ => !inner.items.isEmpty) outer ++ leavesOf inner.items
  | _, [], _ => rfl
  | inner, level :: outer, houter => by
    obtain ⟨hlevel, hrest⟩ := List.forall_mem_cons.mp houter
    have hclose := leavesOf_items (level.pushGroup inner.items) outer hrest
    rw [outerLeaves_pushGroup hlevel rfl outer]
    refine hclose.trans ?_
    rw [(Level.takes_pushGroup hlevel inner.items).isEmpty, Bool.not_not, Bool.not_and, Bool.or_comm]

/-! ### The leaves that come from the tokens -/

def Nest.place (nest : Nest) : Place := ⟨nest.outer.length, nest.inner.pending.undeclared⟩

/-- The leaves that a nest has in the end, when it reads the tokens. -/
def Nest.leaves (declared : List Char → Bool) (nest : Nest) (tokens : List Token) : List Leaf :=
  outerLeaves (fun n => !nest.inner.items.isEmpty || fillsGroup declared { nest.place with depth := n } tokens)
      nest.outer ++
    (leavesOf nest.inner.items ++ (Origin.all declared nest.place tokens).map Origin.leaf)

/-- A token that takes no clause and opens or ends no group only changes what waits. -/
theorem leaves_pending (inner : Level) (outer : List Level) {token : Token} {pending : Pending}
    (hread : ∀ depth, Place.read declared ⟨depth, inner.pending.undeclared⟩ token = ⟨depth, pending.undeclared⟩)
    (hends : ∀ place : Place, place.ends token = false) (hfills : ∀ place : Place, place.fills token = false)
    (horigins : ∀ place : Place, ∀ rest, place.origins declared rest token = []) (rest : List Token) :
    Nest.leaves declared ⟨inner, outer⟩ (token :: rest) =
      Nest.leaves declared ⟨{ inner with pending }, outer⟩ rest := by
  simp only [Nest.leaves, Nest.place, fillsGroup, Origin.all, hread, hends, hfills, horigins, List.nil_append,
    Bool.not_false, Bool.true_and, Bool.false_or]

/-- A token that takes a clause adds its leaves to the innermost group. -/
theorem leaves_takes {inner inner' : Level} (outer : List Level) {token : Token}
    (hread : ∀ place, Place.read declared place token = { place with waiting := none })
    (hends : ∀ place : Place, place.ends token = false)
    (hfills : ∀ place : Place, ∀ depth, Place.fills { place with depth } token = place.fills token)
    {rest : List Token}
    (htakes : inner.Takes (((Nest.place ⟨inner, outer⟩).origins declared rest token).map Origin.leaf)
      ((Nest.place ⟨inner, outer⟩).fills token) inner') :
    Nest.leaves declared ⟨inner, outer⟩ (token :: rest) = Nest.leaves declared ⟨inner', outer⟩ rest := by
  have hplace : Nest.place ⟨inner', outer⟩ = ⟨outer.length, none⟩ := by rw [Nest.place, htakes.undeclared]
  simp only [Nest.leaves, fillsGroup, Origin.all, hread, hends, hfills, hplace, htakes.isEmpty, htakes.leaves]
  simp [Nest.place, Bool.or_assoc]

/-- Whether the new group gets a leaf decides on the name in front of it. -/
theorem leaves_openGroup (inner : Level) (outer : List Level) (rest : List Token) :
    Nest.leaves declared ⟨inner, outer⟩ (.openGroup :: rest) = Nest.leaves declared ⟨{}, inner :: outer⟩ rest := by
  have hfills : ∀ n, fillsGroup declared { Nest.place ⟨inner, outer⟩ with depth := n } (.openGroup :: rest) =
      fillsGroup declared { depth := n + 1 } rest := fun n => rfl
  have horigins : (Nest.place ⟨inner, outer⟩).origins declared rest .openGroup =
      if fillsGroup declared {} rest then inner.pending.undeclared.toList.map .alone else [] := rfl
  have hname : (inner.pending.undeclared.toList.map Origin.alone).map Origin.leaf = inner.nameLeaves := by
    rw [List.map_map]
    rfl
  simp only [Nest.leaves, hfills, Origin.all, horigins, outerLeaves, leavesOf_nil, List.map_append, List.nil_append]
  cases hfilled : fillsGroup declared {} rest
  · simp [hfilled, Nest.place, Place.read, Bool.or_comm]
  · simp [hfilled, hname, Nest.place, Place.read, Bool.or_comm]

theorem leaves_closeGroup {inner level : Level} (hlevel : level.Sound declared) (outer : List Level)
    (rest : List Token) : Nest.leaves declared ⟨inner, level :: outer⟩ (.closeGroup :: rest) =
      Nest.leaves declared ⟨level.pushGroup inner.items, outer⟩ rest := by
  have htakes := Level.takes_pushGroup hlevel inner.items
  have hread : Place.read declared (Nest.place ⟨inner, level :: outer⟩) .closeGroup = ⟨outer.length, none⟩ := rfl
  -- The group ends here, so it is filled by what it has.
  have hends : fillsGroup declared { Nest.place ⟨inner, level :: outer⟩ with depth := 0 } (.closeGroup :: rest) =
      false := rfl
  have hgoes : ∀ n, fillsGroup declared { Nest.place ⟨inner, level :: outer⟩ with depth := n + 1 }
      (.closeGroup :: rest) = fillsGroup declared ⟨n, none⟩ rest := fun n => rfl
  have hplace : Nest.place ⟨level.pushGroup inner.items, outer⟩ = ⟨outer.length, none⟩ := by
    rw [Nest.place, htakes.undeclared]
  unfold Nest.leaves
  rw [← List.append_assoc, outerLeaves_pushGroup hlevel (by rw [hends, Bool.or_false])]
  have hfilled : ∀ n, (!inner.items.isEmpty || fillsGroup declared ⟨n, none⟩ rest || !level.items.isEmpty) =
      (!(level.pushGroup inner.items).items.isEmpty || fillsGroup declared ⟨n, none⟩ rest) := fun n => by
    rw [htakes.isEmpty, Bool.not_not, Bool.not_and, Bool.or_right_comm, Bool.or_comm (!level.items.isEmpty)]
  simp only [hgoes, hfilled, Origin.all, Place.origins, hread, hplace, List.nil_append, List.append_assoc]

theorem leaves_read (nest : Nest) (h : nest.Sound declared) (token : Token) (rest : List Token) :
    nest.leaves declared (token :: rest) = (nest.read declared token).leaves declared rest := by
  obtain ⟨inner, outer⟩ := nest
  have hinner := h.inner
  cases token with
  | openGroup => exact leaves_openGroup inner outer rest
  | closeGroup =>
    cases outer with
    | nil => rfl
    | cons level outer =>
      obtain ⟨hlevel, -⟩ := List.forall_mem_cons.mp h.outer
      exact leaves_closeGroup hlevel outer rest
  | and => exact leaves_pending inner outer (fun _ => rfl) (fun _ => rfl) (fun _ => rfl) (fun _ _ => rfl) rest
  | or => exact leaves_pending inner outer (fun _ => rfl) (fun _ => rfl) (fun _ => rfl) (fun _ _ => rfl) rest
  | not => exact leaves_pending inner outer (fun _ => rfl) (fun _ => rfl) (fun _ => rfl) (fun _ _ => rfl) rest
  | field name =>
    show _ = Nest.leaves declared ⟨inner.readField declared name, outer⟩ rest
    unfold Level.readField
    cases hname : declared name with
    | true =>
      refine leaves_pending inner outer (fun depth => ?_) (fun _ => rfl) (fun _ => rfl) (fun _ _ => rfl) rest
      exact Place.read_declared hname _
    | false =>
      refine leaves_pending inner outer (fun depth => ?_) (fun _ => rfl) (fun _ => rfl) (fun _ _ => rfl) rest
      exact Place.read_undeclared hname _
  | phrase text =>
    refine leaves_takes outer (fun _ => rfl) (fun _ => rfl) (fun _ _ => rfl) ?_
    have := Level.takes_pushPhrase hinner text
    unfold Place.origins
    rw [apply_ite (List.map Origin.leaf), List.map_append, List.map_map]
    exact this
  | word text =>
    refine leaves_takes outer (fun _ => rfl) (fun _ => rfl) (fun _ _ => rfl) ?_
    have := Level.takes_pushWord hinner text
    unfold Place.origins
    rw [apply_ite (List.map Origin.leaf)]
    exact this

variable (declared) in
theorem leaves_foldl_read (tokens : List Token) (htokens : ∀ token ∈ tokens, token.Sound) :
    ∀ nest : Nest, nest.Sound declared →
      leavesOf (tokens.foldl (Nest.read declared) nest).items = nest.leaves declared tokens := by
  induction tokens with
  | nil =>
    intro nest h
    rw [List.foldl_nil, leavesOf_items nest.inner nest.outer h.outer]
    simp [Nest.leaves, fillsGroup, Origin.all]
  | cons token tokens ih =>
    intro nest h
    obtain ⟨htoken, hrest⟩ := List.forall_mem_cons.mp htokens
    rw [List.foldl_cons, ih hrest _ (h.read htoken), leaves_read nest h]

/-- The leaves of the tree of a query are those that its tokens lead to. -/
theorem leavesOf_ofText (declared : List Char → Bool) (cs : List Char) :
    leavesOf (Item.ofText declared cs) = (Origin.all declared {} (Token.scan cs)).map Origin.leaf := by
  have hread := leaves_foldl_read declared (Token.scan cs) sound_of_mem_scan {} ⟨.default, fun _ h => nomatch h⟩
  refine hread.trans ?_
  rw [Nest.leaves, leavesOf_nil, outerLeaves]
  rfl

/-! ### What one token does to a place -/

/-- The origins that a token leads to, and the name that waits after it. -/
inductive Place.Step (declared : List Char → Bool) (place : Place) (rest : List Token) :
    Token → List Origin → Option (List Char) → Prop
  | word {text : List Char} : place.waiting.isSome = true ∨ Token.asks (.word text) = true →
      Step declared place rest (.word text) [.word place.waiting text] none
  | phrase {text : List Char} : Token.asks (.phrase text) = true →
      Step declared place rest (.phrase text) (place.waiting.toList.map .alone ++ [.phrase text]) none
  | group : fillsGroup declared {} rest = true →
      Step declared place rest .openGroup (place.waiting.toList.map .alone) none
  | name {name : List Char} : declared name = false → Step declared place rest (.field name) [] (some name)
  /-- Operators and declared names leave the name waiting; what is blank, and the end of a group, forgets it. -/
  | nothing {token : Token} {waiting : Option (List Char)} : token.asks = false →
      waiting = place.waiting ∨ waiting = none → Step declared place rest token [] waiting

theorem Place.step (place : Place) (token : Token) (rest : List Token) :
    place.Step declared rest token (place.origins declared rest token) (place.read declared token).waiting := by
  cases token with
  | openGroup =>
    have horigins : place.origins declared rest .openGroup =
        if fillsGroup declared {} rest then place.waiting.toList.map .alone else [] := rfl
    rw [horigins]
    split
    · next hfilled => exact .group hfilled
    · exact .nothing rfl (.inr rfl)
  | closeGroup =>
    have hread : place.read declared .closeGroup = if place.depth = 0 then place else { depth := place.depth - 1 } :=
      rfl
    rw [hread]
    split
    · exact .nothing rfl (.inl rfl)
    · exact .nothing rfl (.inr rfl)
  | and => exact .nothing rfl (.inl rfl)
  | or => exact .nothing rfl (.inl rfl)
  | not => exact .nothing rfl (.inl rfl)
  | field name =>
    cases hname : declared name with
    | true =>
      rw [read_declared hname]
      exact .nothing rfl (.inl rfl)
    | false =>
      rw [read_undeclared hname]
      exact .name hname
  | phrase text =>
    have horigins : place.origins declared rest (.phrase text) =
        if Token.asks (.phrase text) then place.waiting.toList.map .alone ++ [.phrase text] else [] := rfl
    rw [horigins]
    split
    · next hasks => exact .phrase hasks
    · next hasks => exact .nothing (by simpa using hasks) (.inr rfl)
  | word text =>
    have horigins : place.origins declared rest (.word text) =
        if place.waiting.isSome || Token.asks (.word text) then [.word place.waiting text] else [] := rfl
    rw [horigins]
    split
    · next htaken => exact .word (by simpa using htaken)
    · next htaken =>
      simp only [Bool.or_eq_true, not_or, Bool.not_eq_true] at htaken
      exact .nothing htaken.2 (.inr rfl)

/-! ### What the origins account for -/

namespace Origin

/-- The token that asks for what is searched, unless nothing is left of it. -/
def asked? : Origin → Option Token
  | .word _ text => if Token.asks (.word text) then some (.word text) else none
  | .phrase text => some (.phrase text)
  | .alone _ => none

def name? : Origin → Option (List Char)
  | .word name _ => name
  | .phrase _ => none
  | .alone name => some name

def tokens : Origin → List Token
  | .word name text => name.toList.map .field ++ [.word text]
  | .phrase text => [.phrase text]
  | .alone name => [.field name]

variable (declared) in
theorem all_cons (place : Place) (token : Token) (rest : List Token) : ∃ origins depth waiting,
    all declared place (token :: rest) = origins ++ all declared ⟨depth, waiting⟩ rest ∧
      place.Step declared rest token origins waiting :=
  ⟨_, _, _, rfl, place.step token rest⟩

theorem asked_all (place : Place) (tokens : List Token) :
    (all declared place tokens).filterMap asked? = tokens.filter Token.asks := by
  induction tokens generalizing place with
  | nil => rfl
  | cons token tokens ih =>
    obtain ⟨origins, depth, waiting, hall, hstep⟩ := all_cons declared place token tokens
    have halone : (place.waiting.toList.map alone).filterMap asked? = [] := by
      cases place.waiting <;> rfl
    have hhere : origins.filterMap asked? = [token].filter Token.asks := by
      cases hstep with
      | @word text => cases hasks : Token.asks (.word text) <;> simp [asked?, hasks]
      | phrase hasks => simp [halone, asked?, hasks]
      | group => exact halone
      | name => rfl
      | nothing hasks => simp [hasks]
    rw [hall, List.filterMap_append, hhere, ih, ← List.filter_append]
    rfl

/-- Each leaf is made of tokens that follow on those of the leaves before it. -/
theorem tokens_all_sublist (place : Place) (tokens : List Token) :
    ((all declared place tokens).flatMap Origin.tokens).Sublist (place.waiting.toList.map .field ++ tokens) := by
  induction tokens generalizing place with
  | nil => exact List.nil_sublist _
  | cons token tokens ih =>
    obtain ⟨origins, depth, waiting, hall, hstep⟩ := all_cons declared place token tokens
    have hrest := ih ⟨depth, waiting⟩
    have halone : (place.waiting.toList.map alone).flatMap Origin.tokens = place.waiting.toList.map .field := by
      cases place.waiting <;> rfl
    rw [hall, List.flatMap_append]
    cases hstep with
    | word =>
      rw [List.flatMap_singleton, Origin.tokens, List.append_assoc]
      exact (List.Sublist.refl _).append (hrest.cons_cons _)
    | phrase =>
      rw [List.flatMap_append, halone, List.append_assoc]
      exact (List.Sublist.refl _).append (hrest.cons_cons _)
    | group =>
      rw [halone]
      exact (List.Sublist.refl _).append (hrest.cons _)
    | name => exact hrest.trans (List.sublist_append_right _ _)
    | nothing _ hwaiting =>
      rcases hwaiting with rfl | rfl
      · exact hrest.trans ((List.Sublist.refl _).append (List.sublist_cons_self _ _))
      · exact (hrest.cons _).trans (List.sublist_append_right _ _)

/-- A leaf that nothing asks for holds a name, and no leaf holds a declared one. -/
structure Admissible (declared : List Char → Bool) (origin : Origin) : Prop where
  named : origin.asked? = none → origin.name?.isSome = true
  undeclared : ∀ name, origin.name? = some name → declared name = false

theorem admissible_all (place : Place) (hplace : ∀ name, place.waiting = some name → declared name = false)
    (tokens : List Token) : ∀ origin ∈ all declared place tokens, origin.Admissible declared := by
  induction tokens generalizing place with
  | nil => exact fun _ h => nomatch h
  | cons token tokens ih =>
    obtain ⟨origins, depth, waiting, hall, hstep⟩ := all_cons declared place token tokens
    have halone : ∀ origin ∈ place.waiting.toList.map alone, origin.Admissible declared := by
      intro origin hmem
      obtain ⟨name, hname, rfl⟩ := List.mem_map.mp hmem
      refine ⟨fun _ => rfl, fun name' heq => ?_⟩
      cases heq
      exact hplace name (by simpa using hname)
    have hnone : ∀ name, (none : Option (List Char)) = some name → declared name = false := fun _ h => nomatch h
    rw [hall]
    refine List.forall_mem_append.mpr ?_
    cases hstep with
    | @word text htaken =>
      refine ⟨List.forall_mem_singleton.mpr ⟨fun hasked => ?_, hplace⟩, ih _ hnone⟩
      rcases htaken with hsome | hasks
      · exact hsome
      · rw [asked?, if_pos hasks] at hasked
        cases hasked
    | phrase =>
      refine ⟨List.forall_mem_append.mpr ⟨halone, ?_⟩, ih _ hnone⟩
      exact List.forall_mem_singleton.mpr ⟨(nomatch ·), hnone⟩
    | group => exact ⟨halone, ih _ hnone⟩
    | @name name hname =>
      refine ⟨List.forall_mem_nil _, ih _ fun name' h => ?_⟩
      cases h
      exact hname
    | nothing _ hwaiting =>
      refine ⟨List.forall_mem_nil _, ih _ ?_⟩
      rcases hwaiting with rfl | rfl
      · exact hplace
      · exact hnone

end Origin

/-! ### Queries that match everything -/

def Token.leaf : Token → List Leaf
  | .word text => [.term text]
  | .phrase text => [.phrase text]
  | _ => []

theorem map_fst_leaves_pieces (ps : List Piece) :
    ∀ scope : Scope, (scope.leaves ps).map (·.1) = ps.flatMap fun p => p.lexemes.flatMap Token.leaf := by
  induction ps with
  | nil => exact fun _ => rfl
  | cons p ps ih =>
    intro scope
    cases p with
    | leaf part => cases part <;> simp [Scope.leaves, Piece.lexemes, Token.leaf, ih]
    | joint alternative => cases alternative <;> simp [Scope.leaves, Piece.lexemes, Token.leaf, ih]
    | _ => simp [Scope.leaves, Piece.lexemes, Token.leaf, ih]

theorem leaf_lexemes_render {items : List Item} (h : ∀ item ∈ items, item.Sound declared) :
    (Token.lexemes (Item.render items)).flatMap Token.leaf = leavesOf items := by
  rw [lexemes_render fun item hitem => (h item hitem).writable, List.flatMap_assoc, ← map_fst_leaves_pieces,
    (readsLeaves_piecesAll items).leaves {}, leavesOf]

/-- A lexeme that restricts to a field that is not declared. -/
def Token.undeclared (declared : List Char → Bool) : Token → List (List Char)
  | .field name => if declared name then [] else [name]
  | _ => []

theorem Token.undeclared_declared {name : List Char} (h : declared name = true) :
    Token.undeclared declared (.field name) = [] := if_pos h

theorem Token.undeclared_undeclared {name : List Char} (h : declared name = false) :
    Token.undeclared declared (.field name) = [name] := if_neg (by simp [h])

theorem undeclared_lexemes_render {items : List Item} (h : ∀ item ∈ items, item.Sound declared) :
    (Token.lexemes (Item.render items)).flatMap (Token.undeclared declared) = [] := by
  have hview : SeesWords declared fun p => p.lexemes.flatMap (Token.undeclared declared) := {
    openGroup := rfl
    closeGroup := rfl
    negation := rfl
    joint := fun alternative => by cases alternative <;> rfl
    marker := fun name hname => by rw [Piece.lexemes, List.flatMap_singleton, Token.undeclared_declared hname]
    phrase := fun _ => rfl }
  rw [flatMap_lexemes_render hview h]
  simp [Token.undeclared]

theorem lexemes_matchAll :
    Token.lexemes matchAll.toList = [.field "empty_searchable".toList, .word "__empty_searchable__".toList] := by
  have hterm := lexemes_term isTerm_matchAll endsWord_nil
  rw [List.append_nil] at hterm
  rw [matchAll_toList, lexemes_marker isFieldName_matchAll, hterm, Token.lexemes]

/-- Only a restriction to the field that every document lacks is written as the query that matches everything. -/
theorem of_render_eq_matchAll {items : List Item} (h : ∀ item ∈ items, item.Sound declared)
    (heq : Item.render items = matchAll.toList) :
    declared "empty_searchable".toList = true ∧ leavesOf items = [.term "__empty_searchable__".toList] := by
  have hleaves := leaf_lexemes_render h
  have hfields := undeclared_lexemes_render h
  rw [heq, lexemes_matchAll] at hleaves hfields
  refine ⟨?_, hleaves.symm⟩
  cases hdeclared : declared "empty_searchable".toList with
  | true => rfl
  | false =>
    rw [List.flatMap_cons, Token.undeclared_undeclared hdeclared] at hfields
    cases hfields

theorem leavesOf_eq_nil_iff {items : List Item} (h : ∀ item ∈ items, item.Sound declared) :
    leavesOf items = [] ↔ items = [] := by
  constructor
  · intro hnil
    cases items with
    | nil => rfl
    | cons item items =>
      rw [leavesOf_cons] at hnil
      exact absurd (List.append_eq_nil_iff.mp hnil).1 (leavesOf_ne_nil (h item List.mem_cons_self))
  · rintro rfl
    exact leavesOf_nil

theorem scan_of_blank {cs : List Char} (h : ∀ c ∈ cs, isBlank c = true) : Token.scan cs = [] := by
  induction cs with
  | nil => rw [Token.scan]
  | cons c cs ih =>
    obtain ⟨hc, hcs⟩ := List.forall_mem_cons.mp h
    rw [Token.scan, if_pos hc, ih hcs]

variable (declared) in
/-- A query is translated into the one that matches everything if its tree has no leaf, or says just that. -/
theorem translateText_eq_matchAll_iff {cs : List Char} (hmatch : trim cs ≠ matchAll.toList) :
    translateText declared cs = matchAll.toList ↔
      leavesOf (Item.ofText declared cs) = [] ∨ Item.render (Item.ofText declared cs) = matchAll.toList := by
  have hsound := (sound_ofText declared cs).1
  rw [leavesOf_eq_nil_iff hsound]
  by_cases hblank : trim cs = []
  · have hnil : Item.ofText declared cs = [] := by
      rw [Item.ofText, scan_of_blank (isBlank_of_trim_eq_nil hblank)]
      rfl
    simp [translateText, hblank, hnil]
  · have hrendered : translateText declared cs =
        if Item.render (Item.ofText declared cs) = [] then matchAll.toList
        else Item.render (Item.ofText declared cs) := by
      simp [translateText, hblank, hmatch]
    have hempty : Item.render (Item.ofText declared cs) = [] ↔ Item.ofText declared cs = [] := by
      constructor
      · intro h
        by_contra hne
        exact (isItems_render hne hsound).trimmed.ne_nil h
      · intro h
        rw [h, Item.render_nil]
    rw [hrendered, ← hempty]
    split
    · next h => simp [h]
    · next h => simp [h]

/-- The leaves of a tree are made of the tokens of its query, in their order. Each word and each phrase that asks for
    something is the origin of exactly one leaf; every other leaf is made of an undeclared name. So a query matches
    everything only if nothing was asked for, unless a declared field lets it ask for just that. -/
theorem leaves_origins (textFields : List String) (query : String) :
    let declared := declaredIn textFields
    let tokens := Token.scan query.toList
    let leaves := leavesOf (Item.ofText declared query.toList)
    let origins := Origin.all declared {} tokens
    leaves = origins.map Origin.leaf ∧
      origins.filterMap Origin.asked? = tokens.filter Token.asks ∧
      (origins.flatMap Origin.tokens).Sublist tokens ∧
      (∀ origin ∈ origins, origin.Admissible declared) ∧
      (declared "empty_searchable".toList = false → trim query.toList ≠ matchAll.toList →
        (translate textFields query = matchAll ↔ leaves = [])) := by
  intro declared tokens leaves origins
  refine ⟨leavesOf_ofText declared query.toList, Origin.asked_all {} tokens, Origin.tokens_all_sublist {} tokens,
    Origin.admissible_all {} (fun _ h => nomatch h) tokens, fun hfield hmatch => ?_⟩
  have hsound := (sound_ofText declared query.toList).1
  have hnever : Item.render (Item.ofText declared query.toList) ≠ matchAll.toList := fun heq => by
    rw [(of_render_eq_matchAll hsound heq).1] at hfield
    cases hfield
  have hiff := translateText_eq_matchAll_iff declared hmatch
  rw [translate, ← String.toList_inj, String.toList_ofList]
  exact hiff.trans (or_iff_left hnever)

/-- A name in front of a phrase, one in front of a word of which nothing is left, and a restricted term. -/
theorem leaves_origins_colorAndSize :
    let query := "color:\"red car\" size:$ -(title:dog $$)"
    let declared := declaredIn ["title"]
    declared "empty_searchable".toList = false ∧ trim query.toList ≠ matchAll.toList ∧
      Origin.all declared {} (Token.scan query.toList) =
        [.alone "color".toList, .phrase "red car".toList, .word (some "size".toList) ['$'],
          .word none "dog".toList] ∧
      (translate ["title"] query = matchAll ↔ leavesOf (Item.ofText declared query.toList) = []) := by
  intro query declared
  have hfield : declared "empty_searchable".toList = false := by decide +kernel
  have hmatch : trim query.toList ≠ matchAll.toList := by decide +kernel
  obtain ⟨-, -, -, -, hiff⟩ := leaves_origins ["title"] query
  exact ⟨hfield, hmatch, by decide +kernel, hiff hfield hmatch⟩

end SearchClient.Query
