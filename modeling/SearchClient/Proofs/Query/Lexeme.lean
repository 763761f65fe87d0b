import SearchClient.Proofs.Query.Shape
import SearchClient.Proofs.Text

/-! Reading a query in two passes: first its lexemes, in which every word is still a plain word, then what each
    word stands for. A query in the daemon's syntax has exactly the lexemes of its pieces. -/

namespace SearchClient.Query
open Text

/-! ### Lexemes -/

/-- The tokens of a text before operators and field names are told apart from other words. -/
def Token.lexemes : List Char → List Token
  | [] => []
  | c :: cs =>
    if isBlank c then lexemes cs
    else if c = '(' then .openGroup :: lexemes cs
    else if c = ')' then .closeGroup :: lexemes cs
    else if c = '|' then .or :: lexemes cs
    else if c = '-' || c = '!' then .not :: lexemes cs
    else if c = '"' then .phrase (cs.takeWhile (· != '"')) :: lexemes ((cs.dropWhile (· != '"')).drop 1)
    else if c = '@' then
      if (cs.takeWhile isFieldCharacter).isEmpty then lexemes (cs.dropWhile isFieldCharacter)
      else .field (cs.takeWhile isFieldCharacter) :: lexemes (cs.dropWhile isFieldCharacter)
    else .word (c :: cs.takeWhile isWordPart) :: lexemes (cs.dropWhile isWordPart)
termination_by cs => cs.length
decreasing_by all_goals grind [length_dropWhile_le]

/-- The tokens that a lexeme stands for. -/
def Token.classify : Token → List Token
  | .word text => Token.ofWord text
  | token => [token]

theorem scan_eq_flatMap_lexemes (cs : List Char) : Token.scan cs = (Token.lexemes cs).flatMap Token.classify := by
  -- One case for each way in which a lexeme begins; both readers choose the same one.
  fun_induction Token.lexemes cs <;> simp_all [Token.scan, Token.classify]

/-! ### What a token holds -/

/-- What a token read from a text can hold. -/
def Token.Sound : Token → Prop
  | .field name => IsFieldName name
  | .phrase text => '"' ∉ text
  | .word text => ∀ c ∈ text, isWordPart c = true
  | _ => True

theorem sound_of_mem_lexemes {cs : List Char} : ∀ token ∈ Token.lexemes cs, token.Sound := by
  fun_induction Token.lexemes cs with
  | case1 => simp
  | case2 c cs _ ih => exact ih
  | case3 cs _ ih => exact List.forall_mem_cons.mpr ⟨trivial, ih⟩
  | case4 cs _ _ ih => exact List.forall_mem_cons.mpr ⟨trivial, ih⟩
  | case5 cs _ _ _ ih => exact List.forall_mem_cons.mpr ⟨trivial, ih⟩
  | case6 c cs _ _ _ _ _ ih => exact List.forall_mem_cons.mpr ⟨trivial, ih⟩
  | case7 cs _ _ _ _ _ ih =>
    refine List.forall_mem_cons.mpr ⟨fun h => ?_, ih⟩
    simpa using of_mem_takeWhile h
  | case8 cs _ _ _ _ _ _ _ ih => exact ih
  | case9 cs hname _ _ _ _ _ _ ih =>
    exact List.forall_mem_cons.mpr ⟨⟨by simpa using hname, fun c hc => of_mem_takeWhile hc⟩, ih⟩
  | case10 c cs hb ho hc hbar hn hq ha ih =>
    refine List.forall_mem_cons.mpr ⟨fun d hd => ?_, ih⟩
    rcases List.mem_cons.mp hd with rfl | hd
    · simp_all [isWordPart]
    · exact of_mem_takeWhile hd

/-! ### What a word stands for -/

/-- The words that stand for an operator, in any case of letters. -/
def operatorWords : List (List Char) := [['a', 'n', 'd'], ['o', 'r'], ['n', 'o', 't']]

/-- Whether a word is an operator. -/
def isOperator (word : List Char) : Bool := operatorWords.any (sameIgnoringCase word)

theorem colon_not_mem {name : List Char} (h : IsFieldName name) : ':' ∉ name := fun hmem =>
  absurd (h.characters ':' hmem) (by decide)

theorem ofWord_of_isOperator {word : List Char} (h : isOperator word = true) :
    Token.ofWord word = [.and] ∨ Token.ofWord word = [.or] ∨ Token.ofWord word = [.not] := by
  simp only [isOperator, operatorWords, List.any_cons, List.any_nil, Bool.or_false, Bool.or_eq_true] at h
  unfold Token.ofWord
  split
  · exact .inl rfl
  · split
    · exact .inr (.inl rfl)
    · rw [if_pos (by simp_all)]
      exact .inr (.inr rfl)

theorem ofWord_of_not_isOperator {word : List Char} (h : isOperator word = false) :
    Token.ofWord word = match cut? [':'] word with
      | some (name, rest) =>
        if !name.isEmpty && name.all isFieldCharacter then
          .field name :: if rest.isEmpty then [] else [.word rest]
        else [.word word]
      | none => [.word word] := by
  simp only [isOperator, operatorWords, List.any_cons, List.any_nil, Bool.or_false, Bool.or_eq_false_iff] at h
  obtain ⟨hand, hor, hnot⟩ := h
  unfold Token.ofWord
  rw [hand, hor, hnot]
  rfl

/-- A field name before a colon is told apart from what follows the colon. -/
theorem ofWord_field {name rest : List Char} (hop : isOperator (name ++ ':' :: rest) = false)
    (hname : IsFieldName name) :
    Token.ofWord (name ++ ':' :: rest) = .field name :: if rest.isEmpty then [] else [.word rest] := by
  rw [ofWord_of_not_isOperator hop, cut?_append (colon_not_mem hname)]
  have hempty : name.isEmpty = false := by simpa using hname.nonempty
  have hall : name.all isFieldCharacter = true := List.all_eq_true.mpr hname.characters
  simp only [hempty, hall, Bool.not_false, Bool.true_and, if_true]

/-- A word without a field name before a colon stays a plain word. -/
theorem ofWord_plain {word : List Char} (hop : isOperator word = false)
    (hplain : ∀ name rest, word = name ++ ':' :: rest → ¬IsFieldName name) : Token.ofWord word = [.word word] := by
  rw [ofWord_of_not_isOperator hop]
  cases hcut : cut? [':'] word with
  | none => rfl
  | some parts =>
    obtain ⟨name, rest⟩ := parts
    obtain ⟨heq, -⟩ := cut?_eq_some hcut
    have hname : ¬(!name.isEmpty && name.all isFieldCharacter) = true := fun h => by
      simp only [Bool.and_eq_true, Bool.not_eq_true', List.isEmpty_eq_false_iff, List.all_eq_true] at h
      exact hplain name rest heq ⟨h.1, h.2⟩
    exact if_neg hname

/-- A word is an operator, or a field name before a colon with what follows it, or a plain word. -/
theorem ofWord_cases (word : List Char) :
    isOperator word = true ∨
    (∃ name rest, isOperator word = false ∧ word = name ++ ':' :: rest ∧ IsFieldName name) ∨
    (isOperator word = false ∧ ∀ name rest, word = name ++ ':' :: rest → ¬IsFieldName name) := by
  cases hop : isOperator word
  · by_cases h : ∃ name rest, word = name ++ ':' :: rest ∧ IsFieldName name
    · obtain ⟨name, rest, heq, hname⟩ := h
      exact .inr (.inl ⟨name, rest, rfl, heq, hname⟩)
    · exact .inr (.inr ⟨rfl, fun name rest heq hname => h ⟨name, rest, heq, hname⟩⟩)
  · exact .inl rfl

theorem sound_of_mem_classify {lexeme : Token} (h : lexeme.Sound) : ∀ token ∈ lexeme.classify, token.Sound := by
  cases lexeme with
  | word word =>
    show ∀ token ∈ Token.ofWord word, token.Sound
    rcases ofWord_cases word with hop | ⟨name, rest, hop, rfl, hname⟩ | ⟨hop, hplain⟩
    · rcases ofWord_of_isOperator hop with hw | hw | hw <;> simp [hw, Token.Sound]
    · rw [ofWord_field hop hname]
      refine List.forall_mem_cons.mpr ⟨hname, ?_⟩
      split
      · simp
      · have hrest : ∀ c ∈ rest, isWordPart c = true := fun c hc => h c (by simp [hc])
        simpa [Token.Sound] using hrest
    · rw [ofWord_plain hop hplain]
      simpa using h
  | _ => simpa [Token.classify] using h

/-- Every token of a text is sound. -/
theorem sound_of_mem_scan {cs : List Char} : ∀ token ∈ Token.scan cs, token.Sound := by
  intro token h
  rw [scan_eq_flatMap_lexemes, List.mem_flatMap] at h
  obtain ⟨lexeme, hlexeme, htoken⟩ := h
  exact sound_of_mem_classify (sound_of_mem_lexemes lexeme hlexeme) token htoken

/-! ### The lexemes of a piece -/

/-- The lexemes that the text of a piece is read as. -/
def Piece.lexemes : Piece → List Token
  | .openGroup => [.openGroup]
  | .closeGroup => [.closeGroup]
  | .marker name => [.field name]
  | .negation => [.not]
  | .joint true => [.or]
  | .joint false => []
  | .leaf (.term text) => [.word text]
  | .leaf (.phrase text) => [.phrase text]

/-- A word in front of the text ends there. -/
def EndsWord (cs : List Char) : Prop := ∀ c ∈ cs.head?, isWordPart c = false

theorem lexemes_blank (cs : List Char) : Token.lexemes (' ' :: cs) = Token.lexemes cs := by
  rw [Token.lexemes, if_pos (by decide)]

theorem lexemes_openGroup (cs : List Char) : Token.lexemes ('(' :: cs) = .openGroup :: Token.lexemes cs := by
  rw [Token.lexemes, if_neg (by decide), if_pos rfl]

theorem lexemes_closeGroup (cs : List Char) : Token.lexemes (')' :: cs) = .closeGroup :: Token.lexemes cs := by
  rw [Token.lexemes, if_neg (by decide), if_neg (by decide), if_pos rfl]

theorem lexemes_bar (cs : List Char) : Token.lexemes ('|' :: cs) = .or :: Token.lexemes cs := by
  rw [Token.lexemes, if_neg (by decide), if_neg (by decide), if_neg (by decide), if_pos rfl]

theorem lexemes_hyphen (cs : List Char) : Token.lexemes ('-' :: cs) = .not :: Token.lexemes cs := by
  rw [Token.lexemes, if_neg (by decide), if_neg (by decide), if_neg (by decide), if_neg (by decide),
    if_pos (by decide)]

theorem lexemes_phrase {text : List Char} (h : '"' ∉ text) (cs : List Char) :
    Token.lexemes ('"' :: text ++ '"' :: cs) = .phrase text :: Token.lexemes cs := by
  have hrun : ∀ c ∈ text, (c != '"') = true := fun c hc => by
    rw [bne_iff_ne]
    rintro rfl
    exact h hc
  have hstop : ∀ c ∈ ('"' :: cs).head?, (c != '"') = false := by simp
  rw [List.cons_append, Token.lexemes, if_neg (by decide), if_neg (by decide), if_neg (by decide),
    if_neg (by decide), if_neg (by decide), if_pos rfl, takeWhile_append_of_stop hrun hstop,
    dropWhile_append_of_stop hrun hstop]
  rfl

theorem lexemes_marker {name : List Char} (h : IsFieldName name) (cs : List Char) :
    Token.lexemes ('@' :: name ++ ' ' :: cs) = .field name :: Token.lexemes cs := by
  have hstop : ∀ c ∈ (' ' :: cs).head?, isFieldCharacter c = false := by
    intro c hc
    cases hc
    decide
  have hne : name.isEmpty = false := by simpa using h.nonempty
  rw [List.cons_append, Token.lexemes, if_neg (by decide), if_neg (by decide), if_neg (by decide),
    if_neg (by decide), if_neg (by decide), if_neg (by decide), if_pos rfl,
    takeWhile_append_of_stop h.characters hstop, dropWhile_append_of_stop h.characters hstop, hne,
    if_neg Bool.false_ne_true, lexemes_blank]

theorem lexemes_term {text cs : List Char} (h : IsTerm text) (hcs : EndsWord cs) :
    Token.lexemes (text ++ cs) = .word text :: Token.lexemes cs := by
  match text, h with
  | [], h => exact absurd rfl h.nonempty
  | c :: text, h =>
    have hc := h.characters c List.mem_cons_self
    have hne : ∀ d, isReserved d = true → ¬c = d := fun d hd => ne_of_isTermCharacter hc hd
    have hyphen : ¬(c = '-' || c = '!') = true := by
      have h1 : c ≠ '-' := fun heq => h.noHyphen (by rw [heq]; rfl)
      simp [h1, hne '!' (by decide)]
    have hrun : ∀ d ∈ text, isWordPart d = true := fun d hd =>
      isWordPart_of_isTermCharacter (h.characters d (List.mem_cons_of_mem c hd))
    rw [List.cons_append, Token.lexemes, if_neg (by simp [(isTermCharacter_iff.mp hc).1]),
      if_neg (hne '(' (by decide)), if_neg (hne ')' (by decide)), if_neg (hne '|' (by decide)), if_neg hyphen,
      if_neg (hne '"' (by decide)), if_neg (hne '@' (by decide)), takeWhile_append_of_stop hrun hcs,
      dropWhile_append_of_stop hrun hcs]

/-! ### The lexemes of a tree -/

/-- The pieces are read as their lexemes, whatever follows that ends a word. -/
def Lexes (ps : List Piece) : Prop := ∀ rest, EndsWord rest →
  Token.lexemes (ps.flatMap Piece.text ++ rest) = ps.flatMap Piece.lexemes ++ Token.lexemes rest

theorem endsWord_nil : EndsWord [] := fun _ h => nomatch h

theorem endsWord_closeGroup (cs : List Char) : EndsWord (')' :: cs) := by
  intro c hc
  cases hc
  decide

theorem endsWord_blank (cs : List Char) : EndsWord (' ' :: cs) := by
  intro c hc
  cases hc
  decide

namespace Lexes

theorem nil : Lexes [] := fun _ _ => rfl

/-- A piece that is read in the same way whatever follows may stand in front. -/
theorem cons {p : Piece} {ps : List Piece} (hps : Lexes ps)
    (hp : ∀ rest, Token.lexemes (p.text ++ rest) = p.lexemes ++ Token.lexemes rest) : Lexes (p :: ps) := by
  intro rest hrest
  rw [List.flatMap_cons, List.append_assoc, hp, hps rest hrest, List.flatMap_cons, List.append_assoc]

theorem append {ps qs : List Piece} (hps : Lexes ps) (hqs : Lexes qs)
    (hends : ∀ rest, EndsWord rest → EndsWord (qs.flatMap Piece.text ++ rest)) : Lexes (ps ++ qs) := by
  intro rest hrest
  rw [List.flatMap_append, List.append_assoc, hps _ (hends rest hrest), hqs rest hrest, List.flatMap_append,
    List.append_assoc]

theorem leaf {part : Leaf} (h : part.Sound) : Lexes [.leaf part] := by
  cases part with
  | term text =>
    intro rest hrest
    simpa [Piece.text, Leaf.text, Piece.lexemes] using lexemes_term h hrest
  | phrase text =>
    refine nil.cons fun rest => ?_
    simpa [Piece.text, Leaf.text, Piece.lexemes] using lexemes_phrase h.noQuote rest

theorem group {ps : List Piece} (h : Lexes ps) : Lexes (.openGroup :: ps ++ [.closeGroup]) := by
  have hclose : Lexes [.closeGroup] := nil.cons lexemes_closeGroup
  exact (h.append hclose fun rest _ => endsWord_closeGroup rest).cons lexemes_openGroup

theorem mark {mark : Mark} (hmark : mark.Fits IsFieldName) (more : Bool) {clause : List Piece} (h : Lexes clause) :
    Lexes (mark.pieces more clause) := by
  obtain ⟨alternative, negated, field⟩ := mark
  have hnegated : Lexes (if negated then .negation :: clause else clause) := by
    cases negated
    · exact h
    · exact h.cons lexemes_hyphen
  cases field with
  | none => exact hnegated
  | some name =>
    have hrestricted : Lexes (.marker name :: if negated then .negation :: clause else clause) :=
      hnegated.cons fun rest => by
        simpa [Piece.text, Piece.lexemes] using lexemes_marker (hmark name rfl) rest
    cases more
    · exact hrestricted
    · exact hrestricted.group

theorem piecesRest {items : List Item} (h : ∀ item ∈ items, ∀ more, Lexes (item.pieces more)) :
    Lexes (Item.piecesRest items) ∧
      ∀ rest, EndsWord rest → EndsWord ((Item.piecesRest items).flatMap Piece.text ++ rest) := by
  induction items with
  | nil => exact ⟨nil, fun _ hrest => hrest⟩
  | cons item items ih =>
    obtain ⟨hitem, hitems⟩ := List.forall_mem_cons.mp h
    obtain ⟨hrest, hends⟩ := ih hitems
    have hpieces := (hitem (!items.isEmpty)).append hrest hends
    unfold Item.piecesRest
    cases item.mark.alternative
    · exact ⟨hpieces.cons lexemes_blank, fun rest _ => endsWord_blank _⟩
    · refine ⟨hpieces.cons fun rest => ?_, fun rest _ => endsWord_blank _⟩
      show Token.lexemes (' ' :: '|' :: ' ' :: rest) = .or :: Token.lexemes rest
      rw [lexemes_blank, lexemes_bar, lexemes_blank]

theorem piecesAll {items : List Item} (h : ∀ item ∈ items, ∀ more, Lexes (item.pieces more)) :
    Lexes (Item.piecesAll items) := by
  cases items with
  | nil => exact nil
  | cons item items =>
    obtain ⟨hitem, hitems⟩ := List.forall_mem_cons.mp h
    exact (hitem _).append (piecesRest hitems).1 (piecesRest hitems).2

theorem pieces {item : Item} (h : item.Formed IsFieldName Leaf.Sound) : ∀ more, Lexes (item.pieces more) := by
  induction h with
  | leaf hmark hpart => exact fun more => mark hmark more (leaf hpart)
  | group hmark _ _ _ ih => exact fun more => mark hmark more (piecesAll ih).group

end Lexes

/-- A tree in the daemon's syntax is read as the lexemes of its pieces. -/
theorem lexemes_render {items : List Item} (h : ∀ item ∈ items, item.Formed IsFieldName Leaf.Sound) :
    Token.lexemes (Item.render items) = (Item.piecesAll items).flatMap Piece.lexemes := by
  have := Lexes.piecesAll (fun item hitem => Lexes.pieces (h item hitem)) [] endsWord_nil
  rwa [List.append_nil, show Token.lexemes [] = [] by rw [Token.lexemes], List.append_nil] at this

end SearchClient.Query
