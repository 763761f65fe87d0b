import Mathlib.Algebra.Order.BigOperators.Group.List
import Mathlib.Algebra.Order.Ring.Nat
import SearchClient.Proofs.Query.RoundTrip

/-! Translating a translation again. The text of a query tells the bare words of its tree apart, and a second
    translation leaves the text unchanged exactly if each of them reads as a word. A word that does not, such as
    an operator that lost a reserved character on the way, is shorter or gone afterwards; no other word makes
    up for it. -/

namespace SearchClient.Query
open Text

variable {declared : List Char → Bool}

/-! ### The bare words of a tree and of a text -/

mutual
/-- The terms of an item in their order, without phrases. -/
def Item.bareWords : Item → List (List Char)
  | .leaf _ (.term text) => [text]
  | .leaf _ (.phrase _) => []
  | .group _ items => Item.bareWordsAll items

def Item.bareWordsAll : List Item → List (List Char)
  | [] => []
  | item :: rest => item.bareWords ++ Item.bareWordsAll rest
end

theorem bareWordsAll_eq_flatMap (items : List Item) : Item.bareWordsAll items = items.flatMap Item.bareWords := by
  induction items with
  | nil => rw [Item.bareWordsAll, List.flatMap_nil]
  | cons item items ih => rw [Item.bareWordsAll, List.flatMap_cons, ih]

/-- The text of a lexeme that is a word. -/
def Token.bareWord : Token → List (List Char)
  | .word text => [text]
  | _ => []

/-- The words of a text outside phrases and markers, operators included. -/
def bareWords (cs : List Char) : List (List Char) := (Token.lexemes cs).flatMap Token.bareWord

/-- A view of the pieces of a text in which only bare words can be seen. -/
structure SeesWords {β : Type} (declared : List Char → Bool) (view : Piece → List β) : Prop where
  openGroup : view .openGroup = []
  closeGroup : view .closeGroup = []
  negation : view .negation = []
  joint : ∀ alternative, view (.joint alternative) = []
  marker : ∀ name, declared name = true → view (.marker name) = []
  phrase : ∀ text, view (.leaf (.phrase text)) = []

section View
variable {β : Type} {view : Piece → List β}

namespace SeesWords

theorem mark (hview : SeesWords declared view) {mark : Mark} (hmark : mark.Fits (IsDeclared declared))
    (more : Bool) (clause : List Piece) : (mark.pieces more clause).flatMap view = clause.flatMap view := by
  obtain ⟨alternative, negated, field⟩ := mark
  have hnegated : (if negated then .negation :: clause else clause).flatMap view = clause.flatMap view := by
    cases negated
    · rfl
    · exact congrArg (· ++ clause.flatMap view) hview.negation
  cases field with
  | none => exact hnegated
  | some name =>
    have hname := hview.marker name (hmark name rfl).2
    cases more
    · simpa [Mark.pieces, hname] using hnegated
    · simpa [Mark.pieces, hname, hview.openGroup, hview.closeGroup] using hnegated

theorem piecesRest (hview : SeesWords declared view) {items : List Item}
    (h : ∀ item ∈ items, ∀ more, (item.pieces more).flatMap view =
      item.bareWords.flatMap fun word => view (.leaf (.term word))) :
    (Item.piecesRest items).flatMap view =
      (Item.bareWordsAll items).flatMap fun word => view (.leaf (.term word)) := by
  induction items with
  | nil => rw [Item.piecesRest, Item.bareWordsAll, List.flatMap_nil, List.flatMap_nil]
  | cons item items ih =>
    obtain ⟨hitem, hitems⟩ := List.forall_mem_cons.mp h
    rw [Item.piecesRest, Item.bareWordsAll, List.cons_append, List.flatMap_cons, hview.joint, List.nil_append,
      List.flatMap_append, List.flatMap_append, hitem, ih hitems]

theorem piecesAll (hview : SeesWords declared view) {items : List Item}
    (h : ∀ item ∈ items, ∀ more, (item.pieces more).flatMap view =
      item.bareWords.flatMap fun word => view (.leaf (.term word))) :
    (Item.piecesAll items).flatMap view =
      (Item.bareWordsAll items).flatMap fun word => view (.leaf (.term word)) := by
  cases items with
  | nil => rw [Item.piecesAll, Item.bareWordsAll, List.flatMap_nil, List.flatMap_nil]
  | cons item items =>
    obtain ⟨hitem, hitems⟩ := List.forall_mem_cons.mp h
    rw [Item.piecesAll, Item.bareWordsAll, List.flatMap_append, List.flatMap_append, hitem,
      hview.piecesRest hitems]

theorem pieces (hview : SeesWords declared view) {item : Item} (h : item.Sound declared) :
    ∀ more, (item.pieces more).flatMap view = item.bareWords.flatMap fun word => view (.leaf (.term word)) := by
  induction h with
  | @leaf mark part hmark _ =>
    intro more
    rw [Item.pieces, hview.mark hmark]
    cases part with
    | term text => rw [Item.bareWords, List.flatMap_singleton, List.flatMap_singleton]
    | phrase text => rw [Item.bareWords, List.flatMap_singleton, hview.phrase, List.flatMap_nil]
  | @group mark items hmark _ _ _ ih =>
    intro more
    rw [Item.pieces, hview.mark hmark, Item.bareWords, List.cons_append, List.flatMap_cons, List.flatMap_append,
      List.flatMap_singleton, hview.openGroup, hview.closeGroup, List.append_nil, List.nil_append,
      hview.piecesAll ih]

end SeesWords

/-- The lexemes of a tree's text show the bare words of the tree. -/
theorem flatMap_lexemes_render {f : Token → List β} (hf : SeesWords declared fun p => p.lexemes.flatMap f)
    {items : List Item} (h : ∀ item ∈ items, item.Sound declared) :
    (Token.lexemes (Item.render items)).flatMap f =
      (Item.bareWordsAll items).flatMap fun word => f (.word word) := by
  rw [lexemes_render fun item hitem => (h item hitem).writable, List.flatMap_assoc,
    hf.piecesAll fun item hitem => hf.pieces (h item hitem)]
  simp [Piece.lexemes]

end View

/-- The bare words of a tree can be read off its text. -/
theorem bareWords_render {items : List Item} (h : ∀ item ∈ items, item.Sound declared) :
    bareWords (Item.render items) = Item.bareWordsAll items := by
  have hview : SeesWords declared fun p => p.lexemes.flatMap Token.bareWord := {
    openGroup := rfl
    closeGroup := rfl
    negation := rfl
    joint := fun alternative => by cases alternative <;> rfl
    marker := fun _ _ => rfl
    phrase := fun _ => rfl }
  unfold bareWords
  rw [flatMap_lexemes_render hview h]
  simp [Token.bareWord]

/-! ### Reading adds no words -/

/-- What some words weigh: their characters, and one more for each word. -/
def weight (words : List (List Char)) : Nat := (words.map fun word => word.length + 1).sum

/-- What a token may add to the words of a tree. A name that is not declared may become a part of a word; the
    colon after it then weighs as much as the end of a word. -/
def Token.weight (declared : List Char → Bool) : Token → Nat
  | .word text => text.length + 1
  | .field name => if declared name then 0 else name.length + 1
  | _ => 0

/-- What an undeclared name that waits may add. -/
def Pending.weight (pending : Pending) : Nat :=
  match pending.undeclared with
  | none => 0
  | some name => name.length + 1

def Level.weight (level : Level) : Nat := Query.weight (Item.bareWordsAll level.items) + level.pending.weight

def Nest.weight (nest : Nest) : Nat := nest.inner.weight + (nest.outer.map Level.weight).sum

theorem weight_append (ws vs : List (List Char)) : weight (ws ++ vs) = weight ws + weight vs := by
  simp [weight]

theorem length_sanitizeTerm_le (word : List Char) : (sanitizeTerm word).length ≤ word.length :=
  ((List.dropWhile_sublist _).trans List.filter_sublist).length_le

theorem length_le_of_undeclaredTerm {pending : Pending} {term : List Char}
    (h : pending.undeclaredTerm? = some term) : term.length + 1 ≤ pending.weight := by
  obtain ⟨hmap, -⟩ := Option.filter_eq_some_iff.mp h
  obtain ⟨name, hname, rfl⟩ := Option.map_eq_some_iff.mp hmap
  unfold Pending.weight
  rw [hname]
  exact Nat.succ_le_succ (length_sanitizeTerm_le name)

namespace Level
variable (level : Level)

theorem weight_push (item : Item) :
    (level.push item).weight = Query.weight (Item.bareWordsAll level.items) + Query.weight item.bareWords := by
  unfold Level.weight Level.push
  rw [bareWordsAll_eq_flatMap, List.flatMap_append, List.flatMap_singleton, ← bareWordsAll_eq_flatMap,
    weight_append]
  rfl

theorem weight_forget : level.forget.weight ≤ level.weight := Nat.le_add_right _ _

theorem weight_readField (name : List Char) :
    (level.readField declared name).weight ≤ level.weight + Token.weight declared (.field name) := by
  have hfield : Token.weight declared (.field name) = if declared name then 0 else name.length + 1 := rfl
  rw [hfield]
  unfold Level.readField
  by_cases h : declared name = true
  · rw [if_pos h, if_pos h]
    exact Nat.le_refl level.weight
  · rw [if_neg h, if_neg h]
    show Query.weight (Item.bareWordsAll level.items) + (name.length + 1) ≤ _
    unfold Level.weight
    omega

/-- A group in front of which an undeclared name waits has room for that name. -/
theorem weight_push_undeclared {term : List Char} (h : level.pending.undeclaredTerm? = some term) (mark : Mark)
    (items : List Item) :
    (level.push (.group mark (.plain (.term term) :: items))).weight ≤
      level.weight + Query.weight (Item.bareWordsAll items) := by
  have hterm : Query.weight [term] ≤ level.pending.weight := length_le_of_undeclaredTerm h
  rw [weight_push, Item.bareWords, Item.bareWordsAll, Item.plain, Item.bareWords, weight_append]
  unfold Level.weight
  omega

theorem weight_pushGroup (items : List Item) :
    (level.pushGroup items).weight ≤ level.weight + Query.weight (Item.bareWordsAll items) := by
  unfold Level.pushGroup
  split
  · exact Nat.le_trans level.weight_forget (Nat.le_add_right _ _)
  · split
    · next term hterm => exact level.weight_push_undeclared hterm level.pending.mark items
    · rw [weight_push, Item.bareWords]
      exact Nat.add_le_add_right (Nat.le_add_right _ _) _

theorem weight_pushPhrase (text : List Char) : (level.pushPhrase text).weight ≤ level.weight := by
  unfold Level.pushPhrase
  simp only
  split
  · exact level.weight_forget
  · split
    · next term hterm =>
      exact level.weight_push_undeclared hterm level.pending.mark [.plain (.phrase (sanitizeText text))]
    · rw [weight_push, Item.bareWords]
      exact Nat.le_add_right _ _

theorem weight_pushTerm (word : List Char) :
    (if (sanitizeTerm word).isEmpty then level.forget
      else level.push (.leaf level.pending.mark (.term (sanitizeTerm word)))).weight ≤
      Query.weight (Item.bareWordsAll level.items) + (word.length + 1) := by
  split
  · exact Nat.le_add_right _ _
  · have := length_sanitizeTerm_le word
    rw [weight_push, Item.bareWords]
    simp only [Query.weight, List.map_cons, List.map_nil, List.sum_cons, List.sum_nil]
    omega

theorem weight_pushWord (word : List Char) :
    (level.pushWord word).weight ≤ level.weight + Token.weight declared (.word word) := by
  unfold Level.pushWord Level.weight Pending.weight Token.weight
  cases level.pending.undeclared with
  | none => exact level.weight_pushTerm word
  | some name =>
    refine Nat.le_trans (level.weight_pushTerm (name ++ ':' :: word)) ?_
    simp only [List.length_append, List.length_cons]
    omega

end Level

theorem weight_close (nest : Nest) : nest.close.weight ≤ nest.weight := by
  unfold Nest.close
  split
  · exact Nat.le_refl _
  · next level outer houter =>
    have := level.weight_pushGroup nest.inner.items
    unfold Nest.weight
    rw [houter, List.map_cons, List.sum_cons]
    unfold Level.weight at *
    simp only
    omega

/-- One token adds no more than it weighs. -/
theorem weight_read (nest : Nest) (token : Token) :
    (nest.read declared token).weight ≤ nest.weight + token.weight declared := by
  have inner : ∀ {level : Level} {w : Nat}, level.weight ≤ nest.inner.weight + w →
      (⟨level, nest.outer⟩ : Nest).weight ≤ nest.weight + w := fun h => by
    unfold Nest.weight
    simp only
    omega
  cases token with
  | openGroup =>
    show 0 + ((nest.inner :: nest.outer).map Level.weight).sum ≤ _
    rw [List.map_cons, List.sum_cons]
    unfold Nest.weight
    omega
  | closeGroup => exact Nat.le_trans (weight_close nest) (Nat.le_add_right _ _)
  | and => exact Nat.le_add_right _ _
  | or => exact inner (Nat.le_add_right nest.inner.weight _)
  | not => exact inner (Nat.le_add_right nest.inner.weight _)
  | field name => exact inner (nest.inner.weight_readField name)
  | phrase text => exact inner (Nat.le_add_right_of_le (nest.inner.weight_pushPhrase text))
  | word text => exact inner (nest.inner.weight_pushWord text)

theorem weight_foldl_read (tokens : List Token) : ∀ nest : Nest,
    (tokens.foldl (Nest.read declared) nest).weight ≤ nest.weight + (tokens.map (Token.weight declared)).sum := by
  induction tokens with
  | nil => exact fun nest => Nat.le_refl _
  | cons token tokens ih =>
    intro nest
    have hstep : (nest.read declared token).weight ≤ nest.weight + token.weight declared := weight_read nest token
    have hrest := ih (nest.read declared token)
    rw [List.foldl_cons, List.map_cons, List.sum_cons]
    omega

theorem weight_items (nest : Nest) : weight (Item.bareWordsAll nest.items) ≤ nest.weight := by
  obtain ⟨inner, outer⟩ := nest
  have hclose : ∀ inner : Level,
      (outer.foldl (fun inner level => level.pushGroup inner.items) inner).weight ≤
        inner.weight + (outer.map Level.weight).sum := by
    -- On the levels from the inside out; each one takes the words of those inside it.
    induction outer with
    | nil => exact fun inner => Nat.le_refl _
    | cons level outer ih =>
      intro inner
      have := ih (level.pushGroup inner.items)
      have := level.weight_pushGroup inner.items
      have : weight (Item.bareWordsAll inner.items) ≤ inner.weight := Nat.le_add_right _ _
      rw [List.foldl_cons, List.map_cons, List.sum_cons]
      omega
  exact Nat.le_trans (Nat.le_add_right _ _) (hclose inner)

/-- The words of a tree weigh no more than the tokens that it is built from. -/
theorem weight_ofTokens (tokens : List Token) :
    weight (Item.bareWordsAll (Item.ofTokens declared tokens)) ≤ (tokens.map (Token.weight declared)).sum := by
  have hrun : (tokens.foldl (Nest.read declared) {}).weight ≤ 0 + (tokens.map (Token.weight declared)).sum :=
    weight_foldl_read tokens {}
  rw [Nat.zero_add] at hrun
  exact Nat.le_trans (weight_items _) hrun

/-! ### Words that weigh less when they are read -/

theorem weight_ofWord (word : List Char) :
    ((Token.ofWord word).map (Token.weight declared)).sum ≤ word.length + 1 ∧
      (¬ReadsAsWord declared word →
        ((Token.ofWord word).map (Token.weight declared)).sum < word.length + 1) := by
  rcases ofWord_cases word with hop | ⟨name, rest, hop, rfl, hname⟩ | ⟨hop, hplain⟩
  · have hzero : ((Token.ofWord word).map (Token.weight declared)).sum = 0 := by
      rcases ofWord_of_isOperator hop with h | h | h <;> rw [h] <;> rfl
    rw [hzero]
    exact ⟨Nat.zero_le _, fun _ => Nat.succ_pos _⟩
  · have hsum : ((Token.ofWord (name ++ ':' :: rest)).map (Token.weight declared)).sum =
        (if declared name then 0 else name.length + 1) + if rest = [] then 0 else rest.length + 1 := by
      rw [ofWord_field hop hname]
      cases rest <;> simp [Token.weight]
    have hlength : (name ++ ':' :: rest).length = name.length + 1 + rest.length := by
      simp
      omega
    rw [hsum, hlength]
    refine ⟨by split <;> split <;> omega, fun h => ?_⟩
    by_cases hd : declared name = true
    · rw [if_pos hd]
      split <;> omega
    · by_cases hrest : rest = []
      · rw [if_neg hd, if_pos hrest]
        omega
      · refine absurd (readsAsWord_iff.mpr ⟨hop, fun parts hparts _ => ?_⟩) h
        rw [cut?_append (colon_not_mem hname)] at hparts
        cases hparts
        exact ⟨by simpa using hd, hrest⟩
  · have hsum : ((Token.ofWord word).map (Token.weight declared)).sum = word.length + 1 := by
      rw [ofWord_plain hop hplain]
      rfl
    rw [hsum]
    exact ⟨Nat.le_refl _, fun h => absurd ⟨hop, fun name rest heq hname => absurd hname (hplain name rest heq)⟩ h⟩

theorem sum_flatMap_ne_zero {α : Type} (g : α → Nat) (ls : List α) :
    (ls.flatMap fun l => if g l = 0 then [] else [g l]).sum = (ls.map g).sum := by
  induction ls with
  | nil => rfl
  | cons l ls ih =>
    rw [List.flatMap_cons, List.sum_append, ih, List.map_cons, List.sum_cons]
    split
    · next h => rw [h, List.sum_nil]
    · rw [List.sum_singleton]

/-- Only the words of a tree's text have a weight: its fields are declared. -/
theorem weight_scan_render {items : List Item} (h : ∀ item ∈ items, item.Sound declared) :
    ((Token.scan (Item.render items)).map (Token.weight declared)).sum =
      ((Item.bareWordsAll items).map fun word => ((Token.ofWord word).map (Token.weight declared)).sum).sum := by
  let g : Token → Nat := fun lexeme => (lexeme.classify.map (Token.weight declared)).sum
  have hview : SeesWords declared fun p => p.lexemes.flatMap fun l => if g l = 0 then [] else [g l] := {
    openGroup := rfl
    closeGroup := rfl
    negation := rfl
    joint := fun alternative => by cases alternative <;> rfl
    marker := fun name hname => by simp [Piece.lexemes, g, Token.classify, Token.weight, hname]
    phrase := fun _ => rfl }
  have hwords := congrArg List.sum (flatMap_lexemes_render hview h)
  rw [sum_flatMap_ne_zero, sum_flatMap_ne_zero (fun word => g (.word word))] at hwords
  rw [scan_eq_flatMap_lexemes, List.map_flatMap, List.flatMap, List.sum_flatten, List.map_map]
  exact hwords

/-! ### A second translation -/

theorem steady_of_readsAsWord {item : Item} (h : item.Sound declared) :
    (∀ word ∈ item.bareWords, ReadsAsWord declared word) → item.Steady declared := by
  induction h with
  | @leaf mark part hmark hpart =>
    intro hwords
    refine .leaf hmark ?_
    cases part with
    | term text => exact ⟨hpart, hwords text (by simp [Item.bareWords])⟩
    | phrase text => exact hpart
  | @group mark items hmark hne hopens _ ih =>
    intro hwords
    rw [Item.bareWords, bareWordsAll_eq_flatMap] at hwords
    exact .group hmark hne hopens fun item hitem => ih item hitem fun word hword =>
      hwords word (List.mem_flatMap.mpr ⟨item, hitem, hword⟩)

/-- The tree of a text that is its own translation weighs as much as the text: no word is lost in reading. -/
theorem readsAsWord_of_render_eq {items again : List Item} (hitems : ∀ item ∈ items, item.Sound declared)
    (hagain : again = Item.ofText declared (Item.render items)) (heq : Item.render again = Item.render items) :
    ∀ word ∈ Item.bareWordsAll items, ReadsAsWord declared word := by
  have hsound : ∀ item ∈ again, item.Sound declared := by
    rw [hagain]
    exact (sound_ofText declared _).1
  -- Both trees have the same words, so the tokens that the second one is built from cannot weigh less.
  have hwords : Item.bareWordsAll again = Item.bareWordsAll items := by
    rw [← bareWords_render hsound, heq, bareWords_render hitems]
  have hle : weight (Item.bareWordsAll items) ≤
      ((Item.bareWordsAll items).map fun word => ((Token.ofWord word).map (Token.weight declared)).sum).sum :=
    calc weight (Item.bareWordsAll items)
      _ = weight (Item.bareWordsAll again) := by rw [hwords]
      _ ≤ ((Token.scan (Item.render items)).map (Token.weight declared)).sum := by
        rw [hagain]
        exact weight_ofTokens _
      _ = _ := weight_scan_render hitems
  intro word hword
  refine Decidable.byContradiction fun hnot => Nat.not_lt.mpr hle ?_
  exact List.sum_lt_sum _ _ (fun w _ => (weight_ofWord w).1) ⟨word, hword, (weight_ofWord word).2 hnot⟩

theorem bareWords_matchAll : bareWords matchAll.toList = ["__empty_searchable__".toList] := by
  have hlexemes := lexemes_term isTerm_matchAll endsWord_nil
  rw [List.append_nil] at hlexemes
  unfold bareWords
  rw [matchAll_toList, lexemes_marker isFieldName_matchAll, hlexemes, Token.lexemes]
  rfl

theorem readsAsWord_of_mem_matchAll : ∀ word ∈ bareWords matchAll.toList, ReadsAsWord declared word := by
  rw [bareWords_matchAll]
  refine List.forall_mem_singleton.mpr ⟨by decide, fun name rest heq _ => ?_⟩
  have hcolon : ':' ∉ "__empty_searchable__".toList := by decide
  rw [heq] at hcolon
  exact absurd (List.mem_append_right name List.mem_cons_self) hcolon

theorem translateText_matchAll (declared : List Char → Bool) :
    translateText declared matchAll.toList = matchAll.toList := by
  have htrim : trim matchAll.toList = matchAll.toList := by decide
  unfold translateText
  rw [htrim, if_pos (by simp)]

theorem translateText_twice_iff (cs : List Char) :
    translateText declared (translateText declared cs) = translateText declared cs ↔
      ∀ word ∈ bareWords (translateText declared cs), ReadsAsWord declared word := by
  rcases translateText_eq declared cs with heq | ⟨hne, heq⟩
  · rw [heq]
    exact ⟨fun _ => readsAsWord_of_mem_matchAll, fun _ => translateText_matchAll declared⟩
  · obtain ⟨hsound, hopens⟩ := sound_ofText declared cs
    have htrimmed := (isItems_render hne hsound).trimmed
    rw [heq]
    constructor
    · intro htwice
      by_cases hmatch : Item.render (Item.ofText declared cs) = matchAll.toList
      · rw [hmatch]
        exact readsAsWord_of_mem_matchAll
      · rw [translateText_of_trimmed htrimmed, if_neg hmatch] at htwice
        split at htwice
        · exact absurd htwice.symm hmatch
        · rw [bareWords_render hsound]
          exact readsAsWord_of_render_eq hsound rfl htwice
    · intro hwords
      rw [bareWords_render hsound, bareWordsAll_eq_flatMap] at hwords
      refine translateText_render hne hopens fun item hitem => steady_of_readsAsWord (hsound item hitem) ?_
      exact fun word hword => hwords word (List.mem_flatMap.mpr ⟨item, hitem, hword⟩)

/-- A second translation leaves a translated query unchanged exactly if none of its bare words is an operator or
    begins with a field name and a colon that restrict something or have nothing after them. -/
theorem translate_translate_iff (textFields : List String) (query : String) :
    translate textFields (translate textFields query) = translate textFields query ↔
      ∀ word ∈ bareWords (translate textFields query).toList, ReadsAsWord (declaredIn textFields) word := by
  unfold translate
  rw [String.toList_ofList, String.ofList_inj]
  exact translateText_twice_iff query.toList

/-- An operator that lost a reserved character is an operator for the second translation. -/
theorem translate_translate_operator : translate ["title"] "dog not! cat" = "dog not cat" ∧
    translate ["title"] (translate ["title"] "dog not! cat") = "dog -cat" ∧
    translate ["title"] (translate ["title"] "dog not! cat") ≠ translate ["title"] "dog not! cat" := by
  decide +kernel

end SearchClient.Query
