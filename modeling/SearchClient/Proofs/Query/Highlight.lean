import Mathlib.Data.List.Basic
import SearchClient.Proofs.Query.RoundTrip

/-! What highlighting looks for. The terms are not taken from the tree of a query but from its text, which is read
    once more with every field name in it declared. They are the words of the leaves that stand in no negated item. -/

namespace SearchClient.Query
open Text

/-! ### Every field name is declared -/

/-- Two sets of fields build the same tree if they agree on the names among the tokens. -/
theorem ofTokens_congr {declared declared' : List Char → Bool} {tokens : List Token}
    (h : ∀ name, .field name ∈ tokens → declared name = declared' name) :
    Item.ofTokens declared tokens = Item.ofTokens declared' tokens := by
  have hfold : tokens.foldl (Nest.read declared) {} = tokens.foldl (Nest.read declared') {} := by
    refine List.foldl_ext _ _ _ fun nest token htoken => ?_
    cases token with
    | field name => rw [Nest.read, Nest.read, Level.readField, Level.readField, h name htoken]
    | _ => rfl
  unfold Item.ofTokens
  rw [hfold]

theorem contains_fieldNames {tokens : List Token} {name : List Char} (h : .field name ∈ tokens) :
    (Token.fieldNames tokens).contains name = true := by
  have hmem : name ∈ Token.fieldNames tokens := List.mem_filterMap.mpr ⟨.field name, h, rfl⟩
  simpa using hmem

theorem highlightText_eq {cs : List Char} (h : cs ≠ matchAll.toList) :
    highlightText cs = join [' '] (Item.termsAll (Item.ofText (fun _ => true) cs)) := by
  have htree : Item.ofTokens (Token.fieldNames (Token.scan cs)).contains (Token.scan cs) =
      Item.ofText (fun _ => true) cs := ofTokens_congr fun _ hname => contains_fieldNames hname
  rw [highlightText, if_neg (by simpa using h), ← htree]

/-! ### Leaves in negated items -/

mutual
/-- The leaves of an item, each with whether it stands in a negated item. -/
def Item.signed (negated : Bool) : Item → List (Leaf × Bool)
  | .leaf mark part => [(part, negated || mark.negated)]
  | .group mark items => Item.signedAll (negated || mark.negated) items

def Item.signedAll (negated : Bool) : List Item → List (Leaf × Bool)
  | [] => []
  | item :: rest => item.signed negated ++ Item.signedAll negated rest
end

/-- The terms and the words of phrases that stand in no negated item. -/
def Item.positiveTerms (items : List Item) : List (List Char) :=
  (Item.signedAll false items).flatMap fun leaf => if leaf.2 then [] else leaf.1.terms

mutual
theorem flatMap_signed (negated : Bool) : ∀ item : Item,
    ((item.signed negated).flatMap fun leaf => if leaf.2 then [] else leaf.1.terms) =
      if negated then [] else item.terms
  | .leaf mark part => by
    rw [Item.signed, Item.terms, List.flatMap_singleton]
    cases negated <;> cases mark.negated <;> rfl
  | .group mark items => by
    rw [Item.signed, Item.terms, flatMap_signedAll _ items]
    cases negated <;> cases mark.negated <;> rfl

theorem flatMap_signedAll (negated : Bool) : ∀ items : List Item,
    ((Item.signedAll negated items).flatMap fun leaf => if leaf.2 then [] else leaf.1.terms) =
      if negated then [] else Item.termsAll items
  | [] => by cases negated <;> rfl
  | item :: rest => by
    rw [Item.signedAll, Item.termsAll, List.flatMap_append, flatMap_signed _ item, flatMap_signedAll _ rest]
    cases negated <;> rfl
end

theorem termsAll_eq_positiveTerms (items : List Item) : Item.termsAll items = Item.positiveTerms items :=
  (flatMap_signedAll false items).symm

/-! ### Groups around restrictions -/

/-- The group around a restricted item negates nothing, so the terms are still those of the item. -/
theorem terms_scope {mark : Mark} {more : Bool} {make : Mark → Item} {terms : List (List Char)}
    (h : ∀ m, (make m).terms = if m.negated then [] else terms) :
    (mark.scope more make).terms = if mark.negated then [] else terms := by
  unfold Mark.scope
  split
  · rw [Item.terms, if_neg Bool.false_ne_true, Item.termsAll, Item.termsAll, List.append_nil, h]
  · exact h mark

mutual
theorem terms_scoped (more : Bool) : ∀ item : Item, (item.scoped more).terms = item.terms
  | .leaf mark part => by
    rw [Item.scoped, Item.terms]
    exact terms_scope fun m => by rw [Item.terms]
  | .group mark items => by
    rw [Item.scoped, Item.terms]
    exact terms_scope fun m => by rw [Item.terms, termsAll_scopedAll items]

theorem termsAll_scopedAll : ∀ items : List Item, Item.termsAll (Item.scopedAll items) = Item.termsAll items
  | [] => by rw [Item.scopedAll]
  | item :: rest => by
    rw [Item.scopedAll, Item.termsAll, Item.termsAll, terms_scoped _ item, termsAll_scopedAll rest]
end

/-! ### Terms without operators -/

/-- A leaf that is read as itself whichever fields are declared. -/
def Leaf.Plain : Leaf → Prop
  | .term text => IsTerm text ∧ isOperator text = false ∧ ':' ∉ text
  | .phrase text => IsPhrase text

instance : (part : Leaf) → Decidable part.Plain
  | .term _ => inferInstanceAs (Decidable (_ ∧ _ ∧ _))
  | .phrase text => inferInstanceAs (Decidable (IsPhrase text))

namespace Leaf.Plain
variable {part : Leaf}

theorem steady (h : part.Plain) (declared : List Char → Bool) : part.Steady declared := by
  cases part with
  | phrase text => exact h
  | term text =>
    obtain ⟨hterm, hoperator, hcolon⟩ := h
    refine ⟨hterm, hoperator, fun name rest heq _ => ?_⟩
    rw [heq] at hcolon
    simp at hcolon

theorem isWord (h : part.Plain) {word : List Char} (hword : word ∈ part.terms) : IsWord word := by
  cases part with
  | phrase text => exact isWord_of_mem_words hword
  | term text =>
    obtain rfl := List.mem_singleton.mp hword
    exact ⟨h.1.nonempty, fun c hc => (isTermCharacter_iff.mp (h.1.characters c hc)).1⟩

end Leaf.Plain

theorem signedAll_eq_flatMap (negated : Bool) (items : List Item) :
    Item.signedAll negated items = items.flatMap (Item.signed negated) := by
  induction items with
  | nil => rfl
  | cons item items ih => rw [Item.signedAll, ih, List.flatMap_cons]

theorem forall_signed {F : List Char → Prop} {L : Leaf → Prop} {item : Item} (h : item.Formed F L) :
    ∀ negated, ∀ leaf ∈ item.signed negated, L leaf.1 := by
  induction h with
  | leaf _ hpart =>
    intro negated leaf hleaf
    rw [Item.signed, List.mem_singleton] at hleaf
    rw [hleaf]
    exact hpart
  | group _ _ _ _ ih =>
    intro negated leaf hleaf
    rw [Item.signed, signedAll_eq_flatMap] at hleaf
    obtain ⟨item, hitem, hleaf⟩ := List.mem_flatMap.mp hleaf
    exact ih item hitem _ leaf hleaf

/-- A term to highlight is the term of a leaf in no negated item, or a word of a phrase there. -/
theorem mem_positiveTerms {items : List Item} {word : List Char} : word ∈ Item.positiveTerms items ↔
    ∃ part, (part, false) ∈ Item.signedAll false items ∧ word ∈ part.terms := by
  constructor
  · intro h
    obtain ⟨⟨part, negated⟩, hleaf, hword⟩ := List.mem_flatMap.mp h
    cases negated with
    | true => exact nomatch hword
    | false => exact ⟨part, hleaf, hword⟩
  · rintro ⟨part, hleaf, hword⟩
    exact List.mem_flatMap.mpr ⟨(part, false), hleaf, hword⟩

theorem isWord_of_mem_positiveTerms {F : List Char → Prop} {items : List Item}
    (h : ∀ item ∈ items, item.Formed F Leaf.Plain) : ∀ word ∈ Item.positiveTerms items, IsWord word := by
  intro word hword
  obtain ⟨part, hleaf, hword⟩ := mem_positiveTerms.mp hword
  rw [signedAll_eq_flatMap] at hleaf
  obtain ⟨item, hitem, hleaf⟩ := List.mem_flatMap.mp hleaf
  exact (forall_signed (h item hitem) false _ hleaf).isWord hword

/-! ### The terms of a query -/

/-- Highlighting looks for the positive terms of a tree, in their order: the text with a space between them has them
    as its words. Each word is the term of a leaf in no negated item or a word of its phrase; no marker and no operator
    of the query contributes a word. -/
theorem highlightTerms_render {items : List Item} (hopens : Opens items)
    (h : ∀ item ∈ items, item.Formed IsFieldName Leaf.Plain) (hmatch : String.ofList (Item.render items) ≠ matchAll) :
    let terms := highlightTerms (String.ofList (Item.render items))
    terms = String.ofList (join [' '] (Item.positiveTerms items)) ∧
      words terms.toList = Item.positiveTerms items ∧
      ∀ word ∈ words terms.toList, ∃ part, (part, false) ∈ Item.signedAll false items ∧ word ∈ part.terms := by
  intro terms
  have hsteady : ∀ item ∈ items, item.Steady fun _ => true := fun item hitem =>
    (h item hitem).mono (fun _ hname => ⟨hname, rfl⟩) fun _ hpart => hpart.steady _
  have hne : Item.render items ≠ matchAll.toList := fun heq => hmatch (by rw [heq, String.ofList_toList])
  have hterms : terms = String.ofList (join [' '] (Item.positiveTerms items)) := by
    rw [← termsAll_eq_positiveTerms, ← termsAll_scopedAll, ← ofText_render hopens hsteady, ← highlightText_eq hne]
    show highlightTerms (String.ofList (Item.render items)) = _
    rw [highlightTerms, String.toList_ofList]
  have hwords : words terms.toList = Item.positiveTerms items := by
    rw [hterms, String.toList_ofList]
    exact words_join (isWord_of_mem_positiveTerms h)
  refine ⟨hterms, hwords, fun word hword => ?_⟩
  rw [hwords] at hword
  exact mem_positiveTerms.mp hword

/-- Restrictions in groups of their own, a negation inside a negated group, and a phrase with two spaces in it. -/
theorem highlightTerms_render_dogOrCow :
    let items : List Item :=
      [.group { field := some "title".toList }
          [.leaf {} (.term "dog".toList), .leaf { alternative := true } (.phrase "big  fish".toList)],
        .leaf { negated := true } (.term "cat".toList),
        .group { negated := true, field := some "body".toList } [.leaf { negated := true } (.term "cow".toList)],
        .leaf { alternative := true, field := some "body".toList } (.phrase "red car".toList)]
    let query := "(@title (dog | \"big  fish\")) -cat (@body -(-cow)) | @body \"red car\""
    Opens items ∧ (∀ item ∈ items, item.Formed IsFieldName Leaf.Plain) ∧ String.ofList (Item.render items) = query ∧
      query ≠ matchAll ∧ highlightTerms query = "dog big fish red car" ∧
      words (highlightTerms query).toList =
        ["dog".toList, "big".toList, "fish".toList, "red".toList, "car".toList] := by
  intro items query
  have hopens : Opens items := by decide
  have hformed : ∀ item ∈ items, item.Formed IsFieldName Leaf.Plain := by decide +kernel
  have hquery : String.ofList (Item.render items) = query := by decide +kernel
  have hmatch : query ≠ matchAll := by decide +kernel
  have hpositive : Item.positiveTerms items =
      ["dog".toList, "big".toList, "fish".toList, "red".toList, "car".toList] := by decide +kernel
  obtain ⟨hterms, hwords, -⟩ := highlightTerms_render hopens hformed (hquery ▸ hmatch)
  rw [hquery, hpositive] at hterms hwords
  exact ⟨hopens, hformed, hquery, hmatch, hterms, hwords⟩

end SearchClient.Query
