import SearchClient.Proofs.Query.Lexeme
import SearchClient.Query.Translate

/-! Every syntax tree that is built from a query can be written in the daemon's syntax: its fields are declared
    names, its terms and phrases are clean, and its groups have a first item. Each token keeps this for every
    open group. -/

namespace SearchClient.Query
open Text

variable {declared : List Char → Bool}

/-- An item that the daemon's syntax can write, with declared fields only. -/
def Item.Sound (declared : List Char → Bool) : Item → Prop := Item.Formed (IsDeclared declared) Leaf.Sound

theorem Item.Sound.writable {item : Item} (h : item.Sound declared) : item.Formed IsFieldName Leaf.Sound :=
  h.mono (fun _ hname => hname.1) fun _ hpart => hpart

/-- What holds of an open group after each token. -/
structure Level.Sound (declared : List Char → Bool) (level : Level) : Prop where
  items : ∀ item ∈ level.items, item.Sound declared
  opens : Opens level.items
  fits : level.pending.mark.Fits (IsDeclared declared)
  undeclared : ∀ name, level.pending.undeclared = some name → IsFieldName name
  /-- No alternative waits for the first item. -/
  first : level.items = [] → level.pending.mark.alternative = false

theorem fits_default {F : List Char → Prop} : Mark.Fits F {} := fun _ h => nomatch h

namespace Level.Sound
variable {level : Level}

theorem default : Level.Sound declared {} where
  items := fun _ h => nomatch h
  opens := fun _ h => nomatch h
  fits := fits_default
  undeclared := fun _ h => nomatch h
  first := fun _ => rfl

theorem forget (h : level.Sound declared) : level.forget.Sound declared where
  items := h.items
  opens := h.opens
  fits := fits_default
  undeclared := fun _ h => nomatch h
  first := fun _ => rfl

/-- An item may be added with the operators that wait. -/
theorem push (h : level.Sound declared) {item : Item} (hitem : item.Sound declared)
    (hmark : item.mark = level.pending.mark) : (level.push item).Sound declared where
  items := List.forall_mem_append.mpr ⟨h.items, List.forall_mem_singleton.mpr hitem⟩
  opens := by
    intro first hfirst
    cases hitems : level.items with
    | nil =>
      rw [Level.push, hitems] at hfirst
      cases hfirst
      rw [hmark]
      exact h.first hitems
    | cons a rest =>
      rw [Level.push, hitems] at hfirst
      refine h.opens first ?_
      rw [hitems]
      exact hfirst
  fits := fits_default
  undeclared := fun _ h => nomatch h
  first := fun _ => rfl

theorem readOr (h : level.Sound declared) : level.readOr.Sound declared where
  items := h.items
  opens := h.opens
  fits := h.fits
  undeclared := h.undeclared
  first hitems := by simp [Level.readOr, show level.items = [] from hitems]

theorem readNot (h : level.Sound declared) : level.readNot.Sound declared where
  items := h.items
  opens := h.opens
  fits := h.fits
  undeclared := h.undeclared
  first := h.first

theorem readField (h : level.Sound declared) {name : List Char} (hname : IsFieldName name) :
    (level.readField declared name).Sound declared := by
  unfold Level.readField
  split
  · next hd =>
    refine ⟨h.items, h.opens, fun n hn => ?_, h.undeclared, h.first⟩
    cases hn
    exact ⟨hname, hd⟩
  · refine ⟨h.items, h.opens, h.fits, fun n hn => ?_, h.first⟩
    cases hn
    exact hname

/-- What is left of an undeclared field name is a term. -/
theorem isTerm_undeclaredTerm (h : level.Sound declared) {term : List Char}
    (hterm : level.pending.undeclaredTerm? = some term) : IsTerm term := by
  obtain ⟨hmap, hne⟩ := Option.filter_eq_some_iff.mp hterm
  obtain ⟨name, hname, rfl⟩ := Option.map_eq_some_iff.mp hmap
  refine isTerm_sanitizeTerm (fun c hc => ?_) (by simpa using hne)
  exact isBlank_of_isFieldCharacter ((h.undeclared name hname).characters c hc)

/-- An undeclared field name that waits may become the first term of a group. -/
theorem push_undeclared (h : level.Sound declared) {term : List Char}
    (hterm : level.pending.undeclaredTerm? = some term) {items : List Item}
    (hitems : ∀ item ∈ items, item.Sound declared) :
    (level.push (.group level.pending.mark (.plain (.term term) :: items))).Sound declared := by
  refine h.push (.group h.fits (List.cons_ne_nil _ _) (fun first hfirst => ?_) ?_) rfl
  · cases hfirst
    rfl
  · exact List.forall_mem_cons.mpr ⟨.leaf fits_default (h.isTerm_undeclaredTerm hterm), hitems⟩

theorem pushGroup (h : level.Sound declared) {items : List Item} (hitems : ∀ item ∈ items, item.Sound declared)
    (hopens : Opens items) : (level.pushGroup items).Sound declared := by
  unfold Level.pushGroup
  split
  · exact h.forget
  · next hne =>
    split
    · next term hterm => exact h.push_undeclared hterm hitems
    · exact h.push (.group h.fits (by simpa using hne) hopens hitems) rfl

theorem pushPhrase (h : level.Sound declared) {text : List Char} (htext : '"' ∉ text) :
    (level.pushPhrase text).Sound declared := by
  unfold Level.pushPhrase
  simp only
  split
  · exact h.forget
  · next hblank =>
    have hphrase : IsPhrase (sanitizeText text) := {
      notBlank := by simpa using hblank
      noQuote := fun hq => by
        obtain ⟨c, hc, heq⟩ := List.mem_map.mp hq
        split at heq
        · cases heq
        · exact htext (heq ▸ hc)
      safe := sanitizeText_sanitizeText text }
    split
    · next term hterm =>
      exact h.push_undeclared hterm (List.forall_mem_singleton.mpr (.leaf fits_default hphrase))
    · exact h.push (.leaf h.fits hphrase) rfl

theorem pushTerm (h : level.Sound declared) {word : List Char} (hword : ∀ c ∈ word, isBlank c = false) :
    (if (sanitizeTerm word).isEmpty then level.forget
      else level.push (.leaf level.pending.mark (.term (sanitizeTerm word)))).Sound declared := by
  split
  · exact h.forget
  · next hne =>
    have hterm : IsTerm (sanitizeTerm word) := isTerm_sanitizeTerm hword (by simpa using hne)
    exact h.push (.leaf h.fits hterm) rfl

theorem pushWord (h : level.Sound declared) {word : List Char} (hword : ∀ c ∈ word, isWordPart c = true) :
    (level.pushWord word).Sound declared := by
  have hblank : ∀ c ∈ word, isBlank c = false := fun c hc => by
    have := hword c hc
    simp only [isWordPart, Bool.and_eq_true, Bool.not_eq_true'] at this
    exact this.1.1.1
  unfold Level.pushWord
  cases hname : level.pending.undeclared with
  | none => exact h.pushTerm hblank
  | some name =>
    refine h.pushTerm fun c hc => ?_
    rcases List.mem_append.mp hc with hc | hc
    · exact isBlank_of_isFieldCharacter ((h.undeclared name hname).characters c hc)
    · rcases List.mem_cons.mp hc with rfl | hc
      · decide
      · exact hblank c hc

end Level.Sound

/-! ### Open groups -/

/-- Every open group is sound. -/
structure Nest.Sound (declared : List Char → Bool) (nest : Nest) : Prop where
  inner : nest.inner.Sound declared
  outer : ∀ level ∈ nest.outer, level.Sound declared

theorem Nest.Sound.close {nest : Nest} (h : nest.Sound declared) : nest.close.Sound declared := by
  unfold Nest.close
  split
  · exact h
  · next level outer houter =>
    obtain ⟨hlevel, hrest⟩ := List.forall_mem_cons.mp (houter ▸ h.outer)
    exact ⟨hlevel.pushGroup h.inner.items h.inner.opens, hrest⟩

/-- One token keeps every open group sound. -/
theorem Nest.Sound.read {nest : Nest} (h : nest.Sound declared) {token : Token} (htoken : token.Sound) :
    (nest.read declared token).Sound declared := by
  cases token with
  | openGroup => exact ⟨.default, List.forall_mem_cons.mpr ⟨h.inner, h.outer⟩⟩
  | closeGroup => exact h.close
  | and => exact h
  | or => exact ⟨h.inner.readOr, h.outer⟩
  | not => exact ⟨h.inner.readNot, h.outer⟩
  | field name => exact ⟨h.inner.readField htoken, h.outer⟩
  | phrase text => exact ⟨h.inner.pushPhrase htoken, h.outer⟩
  | word text => exact ⟨h.inner.pushWord htoken, h.outer⟩

theorem Nest.Sound.foldl_read {tokens : List Token} (htokens : ∀ token ∈ tokens, token.Sound) :
    ∀ {nest : Nest}, nest.Sound declared → (tokens.foldl (Nest.read declared) nest).Sound declared := by
  induction tokens with
  | nil => exact id
  | cons token tokens ih =>
    obtain ⟨htoken, hrest⟩ := List.forall_mem_cons.mp htokens
    exact fun h => ih hrest (h.read htoken)

/-- Groups that are still open at the end are closed one after the other. -/
theorem sound_foldl_pushGroup {outer : List Level} (houter : ∀ level ∈ outer, level.Sound declared) :
    ∀ {inner : Level}, inner.Sound declared →
      (outer.foldl (fun inner level => level.pushGroup inner.items) inner).Sound declared := by
  induction outer with
  | nil => exact id
  | cons level outer ih =>
    obtain ⟨hlevel, hrest⟩ := List.forall_mem_cons.mp houter
    exact fun h => ih hrest (hlevel.pushGroup h.items h.opens)

/-- The tree of a query is sound. -/
theorem sound_ofText (declared : List Char → Bool) (cs : List Char) :
    (∀ item ∈ Item.ofText declared cs, item.Sound declared) ∧ Opens (Item.ofText declared cs) := by
  have hnest : Nest.Sound declared ((Token.scan cs).foldl (Nest.read declared) {}) :=
    Nest.Sound.foldl_read sound_of_mem_scan ⟨.default, fun _ h => nomatch h⟩
  have := sound_foldl_pushGroup hnest.outer hnest.inner
  exact ⟨this.items, this.opens⟩

end SearchClient.Query
