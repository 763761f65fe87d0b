import SearchClient.Proofs.Query.Build

/-! The grammar of translated queries. A translation is the query that matches everything, or items with joints
    between them; an item is a term, a quoted phrase or a group, with an optional negation and an optional
    restriction to a declared field. From the grammar follows where quotes, parentheses and the other reserved
    characters can stand. -/

namespace SearchClient.Query
open Text

/-! ### Grammar -/

mutual
/-- One or more items, with a space or a bar between spaces from one to the next. -/
inductive IsItems (declared : List Char → Bool) : List Char → Prop
  | single {cs : List Char} : IsItem declared cs → IsItems declared cs
  | further {cs ds : List Char} : IsItems declared cs → IsItem declared ds → IsItems declared (cs ++ ' ' :: ds)
  | alternative {cs ds : List Char} : IsItems declared cs → IsItem declared ds →
      IsItems declared (cs ++ ' ' :: '|' :: ' ' :: ds)

/-- A clause that may be restricted to a declared field; then it may be put into parentheses. -/
inductive IsItem (declared : List Char → Bool) : List Char → Prop
  | plain {cs : List Char} : IsClause declared cs → IsItem declared cs
  | restricted {name cs : List Char} : IsDeclared declared name → IsClause declared cs →
      IsItem declared ('@' :: name ++ ' ' :: cs)
  | scoped {name cs : List Char} : IsDeclared declared name → IsClause declared cs →
      IsItem declared ('(' :: ('@' :: name ++ ' ' :: cs) ++ [')'])

/-- An atom that may be negated. -/
inductive IsClause (declared : List Char → Bool) : List Char → Prop
  | positive {cs : List Char} : IsAtom declared cs → IsClause declared cs
  | negative {cs : List Char} : IsAtom declared cs → IsClause declared ('-' :: cs)

/-- A bare term, a phrase in quotes, or items in parentheses. -/
inductive IsAtom (declared : List Char → Bool) : List Char → Prop
  | term {cs : List Char} : IsTerm cs → IsAtom declared cs
  | phrase {cs : List Char} : isBlankText cs = false → '"' ∉ cs →
      (∀ c ∈ cs, isControl c = true → c ∈ ['\t', '\n', '\r']) → IsAtom declared ('"' :: cs ++ ['"'])
  | group {cs : List Char} : IsItems declared cs → IsAtom declared ('(' :: cs ++ [')'])
end

variable {declared : List Char → Bool}

/-! ### A tree in the daemon's syntax follows the grammar -/

theorem isAtom_leaf {part : Leaf} (h : part.Sound) : IsAtom declared part.text := by
  cases part with
  | term text => exact .term h
  | phrase text =>
    refine .phrase h.notBlank h.noQuote fun c hc hcontrol => ?_
    have := sanitizeText_eq_self_iff.mp h.safe c hc
    simp only [isUnsafeControl, hcontrol, Bool.true_and, Bool.and_eq_false_iff, bne_eq_false_iff_eq] at this
    simpa [or_assoc] using this

theorem isItem_mark {mark : Mark} (hmark : mark.Fits (IsDeclared declared)) (more : Bool) {clause : List Piece}
    (h : IsAtom declared (clause.flatMap Piece.text)) :
    IsItem declared ((mark.pieces more clause).flatMap Piece.text) := by
  obtain ⟨alternative, negated, field⟩ := mark
  have hclause : IsClause declared ((if negated then .negation :: clause else clause).flatMap Piece.text) := by
    cases negated
    · exact .positive h
    · exact .negative h
  cases field with
  | none => exact .plain hclause
  | some name =>
    have hname := hmark name rfl
    cases more
    · simpa [Mark.pieces, Piece.text] using IsItem.restricted hname hclause
    · simpa [Mark.pieces, Piece.text] using IsItem.scoped hname hclause

/-- The items after the first one go on with the items before them. -/
theorem isItems_piecesRest {items : List Item}
    (h : ∀ item ∈ items, ∀ more, IsItem declared ((item.pieces more).flatMap Piece.text)) :
    ∀ {cs : List Char}, IsItems declared cs →
      IsItems declared (cs ++ (Item.piecesRest items).flatMap Piece.text) := by
  induction items with
  | nil => exact fun hcs => by simpa [Item.piecesRest] using hcs
  | cons item items ih =>
    intro cs hcs
    obtain ⟨hitem, hitems⟩ := List.forall_mem_cons.mp h
    have hpieces := hitem (!items.isEmpty)
    unfold Item.piecesRest
    cases item.mark.alternative
    · simpa [Piece.text] using ih hitems (.further hcs hpieces)
    · simpa [Piece.text] using ih hitems (.alternative hcs hpieces)

theorem isItems_piecesAll {items : List Item} (hne : items ≠ [])
    (h : ∀ item ∈ items, ∀ more, IsItem declared ((item.pieces more).flatMap Piece.text)) :
    IsItems declared ((Item.piecesAll items).flatMap Piece.text) := by
  cases items with
  | nil => exact absurd rfl hne
  | cons item items =>
    obtain ⟨hitem, hitems⟩ := List.forall_mem_cons.mp h
    unfold Item.piecesAll
    rw [List.flatMap_append]
    exact isItems_piecesRest hitems (.single (hitem _))

theorem isItem_pieces {item : Item} (h : item.Sound declared) :
    ∀ more, IsItem declared ((item.pieces more).flatMap Piece.text) := by
  induction h with
  | leaf hmark hpart =>
    refine fun more => isItem_mark hmark more ?_
    simpa [Piece.text] using isAtom_leaf hpart
  | group hmark hne _ _ ih =>
    refine fun more => isItem_mark hmark more ?_
    simpa [Piece.text] using IsAtom.group (isItems_piecesAll hne ih)

theorem isItems_render {items : List Item} (hne : items ≠ []) (h : ∀ item ∈ items, item.Sound declared) :
    IsItems declared (Item.render items) :=
  isItems_piecesAll hne fun item hitem => isItem_pieces (h item hitem)

/-! ### Quotes, parentheses and reserved characters -/

/-- The characters outside quoted phrases, without the quotes; `quoted` tells that the text begins in one. -/
def unquoted (quoted : Bool) : List Char → List Char
  | [] => []
  | c :: cs =>
    if c = '"' then unquoted (!quoted) cs
    else if quoted then unquoted quoted cs
    else c :: unquoted quoted cs

/-- Each closing parenthesis has an opening one before it, and each opening one is closed. -/
structure Balanced (cs : List Char) : Prop where
  opened : ∀ before, before <+: cs → before.count ')' ≤ before.count '('
  closed : cs.count ')' = cs.count '('

/-- The quotes of a text are paired; outside quoted phrases its parentheses are balanced at every prefix, and
    of the reserved characters it has only those that group, restrict and separate. -/
structure Orderly (cs : List Char) : Prop where
  paired : cs.count '"' % 2 = 0
  opened : ∀ before, before <+: cs → (unquoted false before).count ')' ≤ (unquoted false before).count '('
  closed : (unquoted false cs).count ')' = (unquoted false cs).count '('
  reserved : ∀ c ∈ unquoted false cs, isReserved c = true → c ∈ ['(', ')', '|', '@']

namespace Balanced

theorem append {cs ds : List Char} (hcs : Balanced cs) (hds : Balanced ds) : Balanced (cs ++ ds) where
  opened before h := by
    -- A prefix ends in the first text, or it holds all of it and goes on with a prefix of the second.
    rcases List.prefix_or_prefix_of_prefix h (List.prefix_append cs ds) with h' | ⟨rest, rfl⟩
    · exact hcs.opened before h'
    · have := hds.opened rest ((List.prefix_append_right_inj cs).mp h)
      have := hcs.closed
      simp only [List.count_append]
      omega
  closed := by
    simp only [List.count_append, hcs.closed, hds.closed]

theorem group {cs : List Char} (h : Balanced cs) : Balanced ('(' :: cs ++ [')']) where
  opened before hb := by
    rcases List.prefix_cons_iff.mp hb with rfl | ⟨rest, rfl, hrest⟩
    · simp
    rcases List.prefix_or_prefix_of_prefix hrest (List.prefix_append cs [')']) with h' | ⟨last, rfl⟩
    · have := h.opened rest h'
      simp
      omega
    · have hlast := ((List.prefix_append_right_inj cs).mp hrest).sublist.count_le ')'
      have := h.closed
      simp [List.count_append] at hlast ⊢
      omega
  closed := by
    have := h.closed
    simp [List.count_append]
    omega

theorem of_not_mem {cs : List Char} (hopen : '(' ∉ cs) (hclose : ')' ∉ cs) : Balanced cs where
  opened before h := by
    rw [List.count_eq_zero_of_not_mem fun hc => hclose (h.subset hc)]
    exact Nat.zero_le _
  closed := by rw [List.count_eq_zero_of_not_mem hopen, List.count_eq_zero_of_not_mem hclose]

end Balanced

theorem unquoted_append_of_not_mem {cs : List Char} (h : '"' ∉ cs) (rest : List Char) :
    unquoted false (cs ++ rest) = cs ++ unquoted false rest := by
  induction cs with
  | nil => rfl
  | cons c cs ih =>
    simp only [List.mem_cons, not_or] at h
    simp [unquoted, Ne.symm h.1, ih h.2]

theorem unquoted_of_not_mem {cs : List Char} (h : '"' ∉ cs) : unquoted false cs = cs := by
  have := unquoted_append_of_not_mem h []
  simpa [unquoted] using this

theorem unquoted_phrase {cs : List Char} (h : '"' ∉ cs) (rest : List Char) :
    unquoted false ('"' :: cs ++ '"' :: rest) = unquoted false rest := by
  have hinside : unquoted true (cs ++ '"' :: rest) = unquoted false rest := by
    induction cs with
    | nil => rfl
    | cons c cs ih =>
      simp only [List.mem_cons, not_or] at h
      simp [unquoted, Ne.symm h.1, ih h.2]
  exact hinside

theorem unquoted_mono {before cs : List Char} (h : before <+: cs) :
    ∀ quoted, unquoted quoted before <+: unquoted quoted cs := by
  obtain ⟨rest, rfl⟩ := h
  induction before with
  | nil => exact fun _ => List.nil_prefix
  | cons c before ih =>
    intro quoted
    simp only [List.cons_append, unquoted]
    split
    · exact ih _
    · split
      · exact ih _
      · exact List.cons_prefix_cons.mpr ⟨rfl, ih _⟩

/-- A stretch of text that leaves no quote open and is in order outside quoted phrases. -/
structure Enclosed (cs : List Char) : Prop where
  paired : cs.count '"' % 2 = 0
  splits : ∀ rest, unquoted false (cs ++ rest) = unquoted false cs ++ unquoted false rest
  balanced : Balanced (unquoted false cs)
  reserved : ∀ c ∈ unquoted false cs, isReserved c = true → c ∈ ['(', ')', '|', '@']

namespace Enclosed

theorem append {cs ds : List Char} (hcs : Enclosed cs) (hds : Enclosed ds) : Enclosed (cs ++ ds) where
  paired := by
    have := hcs.paired
    have := hds.paired
    rw [List.count_append]
    omega
  splits rest := by
    rw [List.append_assoc, hcs.splits, hds.splits, hcs.splits, List.append_assoc]
  balanced := by
    rw [hcs.splits]
    exact hcs.balanced.append hds.balanced
  reserved := by
    rw [hcs.splits]
    exact List.forall_mem_append.mpr ⟨hcs.reserved, hds.reserved⟩

/-- Characters that are not reserved, apart from bars and markers, need nothing around them. -/
theorem bare {cs : List Char} (h : ∀ c ∈ cs, isReserved c = true → c ∈ ['|', '@']) : Enclosed cs := by
  have hne : ∀ d, isReserved d = true → d ∉ ['|', '@'] → d ∉ cs := fun d hd hnot hmem => hnot (h d hmem hd)
  have hquote : '"' ∉ cs := hne '"' (by decide) (by decide)
  have hself := unquoted_of_not_mem hquote
  refine ⟨?_, fun rest => ?_, ?_, ?_⟩
  · rw [List.count_eq_zero_of_not_mem hquote]
  · rw [hself, unquoted_append_of_not_mem hquote]
  · rw [hself]
    exact .of_not_mem (hne '(' (by decide) (by decide)) (hne ')' (by decide) (by decide))
  · rw [hself]
    exact fun c hc hr => List.mem_cons_of_mem _ (List.mem_cons_of_mem _ (h c hc hr))

theorem phrase {cs : List Char} (h : '"' ∉ cs) : Enclosed ('"' :: cs ++ ['"']) := by
  have hself : unquoted false ('"' :: cs ++ ['"']) = [] := unquoted_phrase h []
  refine ⟨?_, fun rest => ?_, ?_, ?_⟩
  · simp [List.count_append, List.count_eq_zero_of_not_mem h]
  · rw [hself, List.append_assoc]
    exact unquoted_phrase h rest
  · rw [hself]
    exact .of_not_mem List.not_mem_nil List.not_mem_nil
  · rw [hself]
    exact fun _ hc => nomatch hc

theorem group {cs : List Char} (h : Enclosed cs) : Enclosed ('(' :: cs ++ [')']) := by
  have hself : ∀ rest, unquoted false ('(' :: cs ++ ')' :: rest) =
      '(' :: unquoted false cs ++ ')' :: unquoted false rest := fun rest => by
    simp [unquoted, h.splits]
  have hnil : unquoted false ('(' :: cs ++ [')']) = '(' :: unquoted false cs ++ [')'] := hself []
  refine ⟨?_, fun rest => ?_, ?_, ?_⟩
  · simpa [List.count_append] using h.paired
  · rw [hnil, List.append_assoc, List.append_assoc]
    exact hself rest
  · rw [hnil]
    exact h.balanced.group
  · rw [hnil]
    refine List.forall_mem_cons.mpr ⟨fun _ => by decide, ?_⟩
    exact List.forall_mem_append.mpr ⟨h.reserved, List.forall_mem_singleton.mpr fun _ => by decide⟩

theorem orderly {cs : List Char} (h : Enclosed cs) : Orderly cs where
  paired := h.paired
  opened _ hb := h.balanced.opened _ (unquoted_mono hb false)
  closed := h.balanced.closed
  reserved := h.reserved

theorem term {cs : List Char} (h : IsTerm cs) : Enclosed cs :=
  bare fun c hc hr => absurd rfl (ne_of_isTermCharacter (h.characters c hc) hr)

theorem single {c : Char} (h : isReserved c = true → c ∈ ['|', '@']) : Enclosed [c] :=
  bare (List.forall_mem_singleton.mpr h)

theorem blank : Enclosed [' '] := single (by decide)

theorem bar : Enclosed [' ', '|', ' '] := blank.append ((single (by decide)).append blank)

theorem hyphen : Enclosed ['-'] := single (by decide)

theorem restricted {name cs : List Char} (hname : IsFieldName name) (h : Enclosed cs) :
    Enclosed ('@' :: name ++ ' ' :: cs) := by
  have hmarker : Enclosed ['@'] := single (by decide)
  have hbare : Enclosed name := bare fun c hc hr => by
    rw [isReserved_of_isFieldCharacter (hname.characters c hc)] at hr
    cases hr
  exact (hmarker.append hbare).append (blank.append h)

end Enclosed

/-! ### Texts of the grammar are in order -/

mutual
theorem IsItems.enclosed {cs : List Char} : IsItems declared cs → Enclosed cs
  | .single h => h.enclosed
  | .further h k => h.enclosed.append (Enclosed.blank.append k.enclosed)
  | .alternative h k => h.enclosed.append (Enclosed.bar.append k.enclosed)

theorem IsItem.enclosed {cs : List Char} : IsItem declared cs → Enclosed cs
  | .plain h => h.enclosed
  | .restricted hname h => h.enclosed.restricted hname.1
  | .scoped hname h => (h.enclosed.restricted hname.1).group

theorem IsClause.enclosed {cs : List Char} : IsClause declared cs → Enclosed cs
  | .positive h => h.enclosed
  | .negative h => Enclosed.hyphen.append h.enclosed

theorem IsAtom.enclosed {cs : List Char} : IsAtom declared cs → Enclosed cs
  | .term h => .term h
  | .phrase _ h _ => .phrase h
  | .group h => h.enclosed.group
end

/-! ### Texts of the grammar are trimmed -/

theorem trimmed_enclosed (cs : List Char) : Trimmed ('(' :: cs ++ [')']) :=
  .cons (by decide) cs (.singleton (by decide))

mutual
theorem IsItems.trimmed {cs : List Char} : IsItems declared cs → Trimmed cs
  | .single h => h.trimmed
  | .further h k => h.trimmed.append [' '] k.trimmed
  | .alternative h k => h.trimmed.append [' ', '|', ' '] k.trimmed

theorem IsItem.trimmed {cs : List Char} : IsItem declared cs → Trimmed cs
  | .plain h => h.trimmed
  | .restricted _ h => by simpa using h.trimmed.cons (by decide : isBlank '@' = false) (_ ++ [' '])
  | .scoped _ _ => trimmed_enclosed _

theorem IsClause.trimmed {cs : List Char} : IsClause declared cs → Trimmed cs
  | .positive h => h.trimmed
  | .negative h => h.trimmed.cons (by decide) []

theorem IsAtom.trimmed {cs : List Char} : IsAtom declared cs → Trimmed cs
  | .term h => .of_forall h.nonempty fun c hc => (isTermCharacter_iff.mp (h.characters c hc)).1
  | .phrase _ _ _ => .cons (by decide) _ (.singleton (by decide))
  | .group _ => trimmed_enclosed _
end

/-! ### Translations -/

theorem Item.render_nil : Item.render [] = [] := rfl

theorem translateText_eq (declared : List Char → Bool) (cs : List Char) :
    translateText declared cs = matchAll.toList ∨
      Item.ofText declared cs ≠ [] ∧ translateText declared cs = Item.render (Item.ofText declared cs) := by
  unfold translateText
  split
  · exact .inl rfl
  · by_cases h : (Item.render (Item.ofText declared cs)).isEmpty = true
    · exact .inl (if_pos h)
    · refine .inr ⟨fun hnil => h ?_, if_neg h⟩
      rw [hnil, Item.render_nil]
      rfl

theorem matchAll_toList :
    matchAll.toList = '@' :: "empty_searchable".toList ++ ' ' :: "__empty_searchable__".toList := by decide

theorem isFieldName_matchAll : IsFieldName "empty_searchable".toList := by decide

theorem isTerm_matchAll : IsTerm "__empty_searchable__".toList := by decide

theorem orderly_matchAll : Orderly matchAll.toList := by
  rw [matchAll_toList]
  exact ((Enclosed.term isTerm_matchAll).restricted isFieldName_matchAll).orderly

/-- Every translation is the query that matches everything or a text of the grammar over the declared fields;
    its quotes are paired and its parentheses balanced, and other reserved characters stand in phrases only. -/
theorem translate_isItems (textFields : List String) (query : String) :
    (translate textFields query = matchAll ∨
      IsItems (declaredIn textFields) (translate textFields query).toList) ∧
    Orderly (translate textFields query).toList := by
  unfold translate
  rw [String.toList_ofList]
  rcases translateText_eq (declaredIn textFields) query.toList with heq | ⟨hne, heq⟩
  · rw [heq, String.ofList_toList]
    exact ⟨.inl rfl, orderly_matchAll⟩
  · have hitems := isItems_render hne (sound_ofText (declaredIn textFields) query.toList).1
    rw [heq]
    exact ⟨.inr hitems, hitems.enclosed.orderly⟩

end SearchClient.Query
