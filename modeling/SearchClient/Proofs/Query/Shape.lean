import SearchClient.Query.Piece
import SearchClient.Query.Sanitize
import SearchClient.Query.Token

/-! What the names, terms and phrases of a translated query look like, and which syntax trees are made of
    them. White space ends a field name and a term; this is what keeps them apart from what follows. -/

namespace SearchClient.Query
open Text

/-! ### Characters -/

theorem isFieldCharacter_of_isBlank {c : Char} (h : isBlank c = true) : isFieldCharacter c = false := by
  -- White space is a few characters, and each of them is looked up in the tables of letters and numbers.
  have table : ∀ n ∈ whiteSpaceRanges.flatMap fun r => List.range' r.1 (r.2 + 1 - r.1),
      isFieldCharacter (Char.ofNat n) = false := by decide +kernel
  simp only [isBlank, Ranges.contains, List.any_eq_true, Bool.and_eq_true, decide_eq_true_eq] at h
  obtain ⟨r, hr, hfirst, hlast⟩ := h
  rw [← Char.ofNat_toNat c]
  refine table _ (List.mem_flatMap.mpr ⟨r, hr, ?_⟩)
  rw [List.mem_range'_1]
  omega

theorem isBlank_of_isFieldCharacter {c : Char} (h : isFieldCharacter c = true) : isBlank c = false := by
  cases hb : isBlank c
  · rfl
  · rw [isFieldCharacter_of_isBlank hb] at h
    cases h

/-- Whether a character may stand in a bare term. -/
def isTermCharacter (c : Char) : Bool := !isBlank c && !isControl c && !isReserved c

theorem isTermCharacter_iff {c : Char} :
    isTermCharacter c = true ↔ isBlank c = false ∧ isControl c = false ∧ isReserved c = false := by
  simp [isTermCharacter, and_assoc]

/-- No reserved character stands in a term. -/
theorem ne_of_isTermCharacter {c d : Char} (hc : isTermCharacter c = true) (hd : isReserved d = true) : c ≠ d := by
  rintro rfl
  rw [(isTermCharacter_iff.mp hc).2.2] at hd
  cases hd

theorem isWordPart_of_isTermCharacter {c : Char} (h : isTermCharacter c = true) : isWordPart c = true := by
  have hopen : c ≠ '(' := ne_of_isTermCharacter h (by decide)
  have hclose : c ≠ ')' := ne_of_isTermCharacter h (by decide)
  have hquote : c ≠ '"' := ne_of_isTermCharacter h (by decide)
  simp only [isWordPart, (isTermCharacter_iff.mp h).1, bne_iff_ne, Bool.and_eq_true, Bool.not_false, true_and,
    ne_eq]
  exact ⟨⟨hopen, hclose⟩, hquote⟩

/-- No reserved character stands in a field name. -/
theorem isReserved_of_isFieldCharacter {c : Char} (h : isFieldCharacter c = true) : isReserved c = false := by
  have table : (reservedCharacters.all fun d => !isFieldCharacter d) = true := by decide
  cases hr : isReserved c
  · rfl
  · have hc := List.all_eq_true.mp table c (List.contains_iff_mem.mp hr)
    rw [h] at hc
    cases hc

theorem not_contains_of_outside {ranges : Ranges} {first last n : Nat}
    (houtside : ∀ r ∈ ranges, r.2 < first ∨ last < r.1) (hfirst : first ≤ n) (hlast : n ≤ last) :
    ranges.contains n = false := by
  simp only [Ranges.contains, List.any_eq_false, Bool.and_eq_true, decide_eq_true_eq]
  intro r hr hn
  rcases houtside r hr with h | h
  · omega
  · omega

theorem isControl_of_isFieldCharacter {c : Char} (h : isFieldCharacter c = true) : isControl c = false := by
  have ascii : ∀ n < 0x80, isControl (Char.ofNat n) = true → isFieldCharacter (Char.ofNat n) = false := by decide
  -- The control characters outside ASCII lie in a gap of all tables of letters and numbers.
  have gap : ∀ ranges ∈ [alphabeticRanges, recentAlphabeticRanges, decimalDigitRanges, recentDigitRanges,
      otherNumberRanges], ∀ r ∈ ranges, r.2 < 0x80 ∨ 0x9F < r.1 := by decide +kernel
  cases hcontrol : isControl c with
  | false => rfl
  | true =>
    by_cases hlow : c.toNat < 0x80
    · have hnot := ascii c.toNat hlow
      rw [Char.ofNat_toNat, h] at hnot
      exact absurd (hnot hcontrol) (by decide)
    · simp only [isControl, Bool.or_eq_true, Bool.and_eq_true, decide_eq_true_eq] at hcontrol
      have outside : ∀ ranges ∈ [alphabeticRanges, recentAlphabeticRanges, decimalDigitRanges, recentDigitRanges,
          otherNumberRanges], ranges.contains c.toNat = false := fun ranges hranges =>
        not_contains_of_outside (gap ranges hranges) (by omega) (by omega)
      simp only [isFieldCharacter, isAlphanumeric, if_neg hlow, Bool.or_eq_true, beq_iff_eq] at h
      rcases h with h | rfl
      · simp [outside] at h
      · exact absurd hlow (by decide)

/-! ### Names, terms and phrases -/

/-- A field name: a run of field characters. -/
structure IsFieldName (name : List Char) : Prop where
  nonempty : name ≠ []
  characters : ∀ c ∈ name, isFieldCharacter c = true

/-- A bare term: it holds no white space, no control character and no reserved character, and it does not
    begin with a hyphen. -/
structure IsTerm (text : List Char) : Prop where
  nonempty : text ≠ []
  characters : ∀ c ∈ text, isTermCharacter c = true
  noHyphen : text.head? ≠ some '-'

/-- The text of a phrase: it asks for something, it cannot close its own quotes, and it is safe to send. -/
structure IsPhrase (text : List Char) : Prop where
  notBlank : isBlankText text = false
  noQuote : '"' ∉ text
  safe : sanitizeText text = text

instance (name : List Char) : Decidable (IsFieldName name) :=
  decidable_of_iff (name.isEmpty = false ∧ name.all isFieldCharacter = true)
    ⟨fun h => ⟨List.isEmpty_eq_false_iff.mp h.1, List.all_eq_true.mp h.2⟩,
      fun h => ⟨List.isEmpty_eq_false_iff.mpr h.nonempty, List.all_eq_true.mpr h.characters⟩⟩

instance (text : List Char) : Decidable (IsTerm text) :=
  decidable_of_iff (text.isEmpty = false ∧ text.all isTermCharacter = true ∧ text.head? ≠ some '-')
    ⟨fun h => ⟨List.isEmpty_eq_false_iff.mp h.1, List.all_eq_true.mp h.2.1, h.2.2⟩,
      fun h => ⟨List.isEmpty_eq_false_iff.mpr h.nonempty, List.all_eq_true.mpr h.characters, h.noHyphen⟩⟩

instance (text : List Char) : Decidable (IsPhrase text) :=
  decidable_of_iff (isBlankText text = false ∧ '"' ∉ text ∧ sanitizeText text = text)
    ⟨fun h => ⟨h.1, h.2.1, h.2.2⟩, fun h => ⟨h.notBlank, h.noQuote, h.safe⟩⟩

theorem sanitizeText_eq_self_iff {text : List Char} :
    sanitizeText text = text ↔ ∀ c ∈ text, isUnsafeControl c = false := by
  have hid : sanitizeText text = text.map id ↔ ∀ c ∈ text, (if isUnsafeControl c then ' ' else c) = id c :=
    List.map_inj_left
  rw [List.map_id] at hid
  refine hid.trans (forall₂_congr fun c _ => ?_)
  by_cases h : isUnsafeControl c = true
  · have hne : ' ' ≠ c := by
      rintro rfl
      exact absurd h (by decide)
    simp [h, hne]
  · simp [h]

theorem sanitizeText_sanitizeText (text : List Char) : sanitizeText (sanitizeText text) = sanitizeText text := by
  rw [sanitizeText_eq_self_iff]
  intro c hc
  obtain ⟨d, -, rfl⟩ := List.mem_map.mp hc
  by_cases h : isUnsafeControl d = true
  · rw [if_pos h]
    decide
  · rw [if_neg h]
    simpa using h

/-- What is left of a word is a term, unless nothing is left. -/
theorem isTerm_sanitizeTerm {word : List Char} (hword : ∀ c ∈ word, isBlank c = false)
    (hne : sanitizeTerm word ≠ []) : IsTerm (sanitizeTerm word) where
  nonempty := hne
  characters c hc := by
    have hmem := (List.dropWhile_sublist _).subset hc
    simp only [List.mem_filter, Bool.and_eq_true, Bool.not_eq_eq_eq_not, Bool.not_true] at hmem
    exact isTermCharacter_iff.mpr ⟨hword c hmem.1, hmem.2⟩
  noHyphen h := by
    have := List.head?_dropWhile_not (· == '-') (word.filter fun c => !isControl c && !isReserved c)
    unfold sanitizeTerm at h
    rw [h] at this
    simp at this

theorem IsTerm.sanitizeTerm_eq {text : List Char} (h : IsTerm text) : sanitizeTerm text = text := by
  have hfilter : text.filter (fun c => !isControl c && !isReserved c) = text := by
    rw [List.filter_eq_self]
    intro c hc
    simp [(isTermCharacter_iff.mp (h.characters c hc)).2]
  unfold sanitizeTerm
  rw [hfilter]
  match text, h.noHyphen with
  | [], _ => rfl
  | c :: cs, hc => exact List.dropWhile_cons_of_neg (by simpa using hc)

/-- A field name in front of a word stays as it is. -/
theorem sanitizeTerm_append {name : List Char} (h : IsFieldName name) (rest : List Char) :
    sanitizeTerm (name ++ rest) = name ++ rest.filter fun c => !isControl c && !isReserved c := by
  have hkeep : name.filter (fun c => !isControl c && !isReserved c) = name := by
    rw [List.filter_eq_self]
    intro c hc
    have hfield := h.characters c hc
    simp [isControl_of_isFieldCharacter hfield, isReserved_of_isFieldCharacter hfield]
  unfold sanitizeTerm
  rw [List.filter_append, hkeep]
  match name, h with
  | [], h => exact absurd rfl h.nonempty
  | c :: cs, h =>
    have hyphen : c ≠ '-' := by
      rintro rfl
      exact absurd (h.characters '-' List.mem_cons_self) (by decide)
    exact List.dropWhile_cons_of_neg (by simpa using hyphen)

theorem sanitizeTerm_fieldName {name : List Char} (h : IsFieldName name) : sanitizeTerm name = name := by
  have := sanitizeTerm_append h []
  rwa [List.filter_nil, List.append_nil] at this

/-! ### Syntax trees -/

/-- The field of a mark, if there is one, satisfies `F`. -/
def Mark.Fits (F : List Char → Prop) (mark : Mark) : Prop := ∀ name, mark.field = some name → F name

instance (F : List Char → Prop) [DecidablePred F] (mark : Mark) : Decidable (mark.Fits F) :=
  inferInstanceAs (Decidable (∀ name ∈ mark.field, F name))

/-- The first item, if there is one, is not an alternative to anything. -/
def Opens (items : List Item) : Prop := ∀ item ∈ items.head?, item.mark.alternative = false

/-- A tree whose fields satisfy `F` and whose leaves satisfy `L`. Its groups have items, the first of which
    is not an alternative. -/
inductive Item.Formed (F : List Char → Prop) (L : Leaf → Prop) : Item → Prop
  | leaf {mark : Mark} {part : Leaf} : mark.Fits F → L part → Formed F L (.leaf mark part)
  | group {mark : Mark} {items : List Item} : mark.Fits F → items ≠ [] → Opens items →
      (∀ item ∈ items, Formed F L item) → Formed F L (.group mark items)

theorem Item.Formed.mono {F G : List Char → Prop} {L M : Leaf → Prop} (hF : ∀ name, F name → G name)
    (hL : ∀ part, L part → M part) {item : Item} (h : item.Formed F L) : item.Formed G M := by
  induction h with
  | leaf hmark hpart => exact .leaf (fun name hn => hF name (hmark name hn)) (hL _ hpart)
  | group hmark hne hopens _ ih => exact .group (fun name hn => hF name (hmark name hn)) hne hopens ih

instance (items : List Item) : Decidable (Opens items) :=
  inferInstanceAs (Decidable (∀ item ∈ items.head?, item.mark.alternative = false))

section DecideFormed
variable (F : List Char → Prop) (L : Leaf → Prop) [DecidablePred F] [DecidablePred L]

mutual
def Item.decideFormed : (item : Item) → Decidable (item.Formed F L)
  | .leaf mark part => decidable_of_iff (mark.Fits F ∧ L part) ⟨fun h => .leaf h.1 h.2, fun | .leaf hm hp => ⟨hm, hp⟩⟩
  | .group mark items =>
    have := Item.decideFormedAll items
    decidable_of_iff (mark.Fits F ∧ items.isEmpty = false ∧ Opens items ∧ ∀ item ∈ items, item.Formed F L)
      ⟨fun h => .group h.1 (List.isEmpty_eq_false_iff.mp h.2.1) h.2.2.1 h.2.2.2,
        fun | .group hm hne ho hi => ⟨hm, List.isEmpty_eq_false_iff.mpr hne, ho, hi⟩⟩

def Item.decideFormedAll : (items : List Item) → Decidable (∀ item ∈ items, item.Formed F L)
  | [] => .isTrue (List.forall_mem_nil _)
  | item :: rest =>
    have := item.decideFormed
    have := Item.decideFormedAll rest
    decidable_of_iff (item.Formed F L ∧ ∀ item ∈ rest, item.Formed F L) List.forall_mem_cons.symm
end

instance (item : Item) : Decidable (item.Formed F L) := item.decideFormed F L

end DecideFormed

/-- A declared field name. -/
def IsDeclared (declared : List Char → Bool) (name : List Char) : Prop := IsFieldName name ∧ declared name = true

instance (declared : List Char → Bool) (name : List Char) : Decidable (IsDeclared declared name) :=
  inferInstanceAs (Decidable (_ ∧ _))

/-- A leaf as the daemon's syntax can write it. -/
def Leaf.Sound : Leaf → Prop
  | .term text => IsTerm text
  | .phrase text => IsPhrase text

end SearchClient.Query
