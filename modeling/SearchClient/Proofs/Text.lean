import Mathlib.Data.List.TakeWhile
import SearchClient.Text.Split

/-! Laws of cutting and trimming texts. -/

namespace SearchClient.Text

theorem of_mem_takeWhile {p : Char → Bool} {c : Char} {cs : List Char} (h : c ∈ cs.takeWhile p) : p c = true :=
  List.all_eq_true.mp List.all_takeWhile c h

theorem of_mem_head?_dropWhile {p : Char → Bool} {c : Char} {cs : List Char} (h : c ∈ (cs.dropWhile p).head?) :
    p c = false := by
  have hhead := List.head?_dropWhile_not p cs
  rw [Option.mem_def.mp h] at hhead
  simpa using hhead

/-- A run of characters with `p` ends where the rest begins with another character. -/
theorem takeWhile_append_of_stop {p : Char → Bool} {run rest : List Char} (hrun : ∀ c ∈ run, p c = true)
    (hrest : ∀ c ∈ rest.head?, p c = false) : (run ++ rest).takeWhile p = run := by
  rw [List.takeWhile_append_of_pos hrun]
  cases rest with
  | nil => simp
  | cons c cs => simp [hrest c rfl]

theorem dropWhile_append_of_stop {p : Char → Bool} {run rest : List Char} (hrun : ∀ c ∈ run, p c = true)
    (hrest : ∀ c ∈ rest.head?, p c = false) : (run ++ rest).dropWhile p = rest := by
  rw [List.dropWhile_append_of_pos hrun]
  cases rest with
  | nil => rfl
  | cons c cs => simp [hrest c rfl]

/-! ### The first occurrence of a character -/

theorem bne_of_not_mem {d : Char} {cs : List Char} (h : d ∉ cs) : ∀ c ∈ cs, (c != d) = true := by
  intro c hc
  rw [bne_iff_ne]
  rintro rfl
  exact h hc

theorem cut?_cons_self (d : Char) (cs : List Char) : cut? [d] (d :: cs) = some ([], cs) := by
  simp [cut?]

theorem cut?_cons_of_ne {c d : Char} (h : c ≠ d) (cs : List Char) :
    cut? [d] (c :: cs) = (cut? [d] cs).map fun (before, after) => (c :: before, after) := by
  simp [cut?, Ne.symm h]

/-- A separator is found where its first character stands for the first time. -/
theorem cut?_append_separator {d : Char} {before : List Char} (h : d ∉ before) (ds after : List Char) :
    cut? (d :: ds) (before ++ (d :: ds ++ after)) = some (before, after) := by
  induction before with
  | nil =>
    show cut? (d :: ds) (d :: (ds ++ after)) = _
    simp [cut?]
  | cons c before ih =>
    obtain ⟨hc, hbefore⟩ := not_or.mp (mt List.mem_cons.mpr h)
    have hprefix : (d :: ds).isPrefixOf (c :: (before ++ (d :: ds ++ after))) = false := by
      rw [List.isPrefixOf_cons_cons, beq_eq_false_iff_ne.mpr hc, Bool.false_and]
    rw [List.cons_append, cut?, hprefix, ih hbefore]
    rfl

theorem cut?_append {d : Char} {before : List Char} (h : d ∉ before) (after : List Char) :
    cut? [d] (before ++ d :: after) = some (before, after) := cut?_append_separator h [] after

theorem cut?_eq_some {d : Char} {cs before after : List Char} (h : cut? [d] cs = some (before, after)) :
    cs = before ++ d :: after ∧ d ∉ before := by
  induction cs generalizing before with
  | nil => simp [cut?] at h
  | cons c cs ih =>
    by_cases hc : c = d
    · subst hc
      rw [cut?_cons_self] at h
      cases h
      exact ⟨rfl, List.not_mem_nil⟩
    · rw [cut?_cons_of_ne hc] at h
      obtain ⟨⟨b, a⟩, hba, hpair⟩ := Option.map_eq_some_iff.mp h
      cases hpair
      obtain ⟨rfl, hb⟩ := ih hba
      refine ⟨rfl, ?_⟩
      simp only [List.mem_cons, not_or]
      exact ⟨Ne.symm hc, hb⟩

theorem cut?_of_not_mem {d : Char} {cs : List Char} (h : d ∉ cs) : cut? [d] cs = none := by
  cases hcut : cut? [d] cs with
  | none => rfl
  | some parts =>
    obtain ⟨rfl, -⟩ := cut?_eq_some hcut
    exact absurd (List.mem_append_right _ List.mem_cons_self) h

theorem cut?_of_mem {d : Char} {cs : List Char} (h : d ∈ cs) :
    cut? [d] cs = some (cs.takeWhile (· != d), (cs.dropWhile (· != d)).drop 1) := by
  obtain ⟨before, after, rfl, hbefore⟩ := List.eq_append_cons_of_mem h
  have hrun := bne_of_not_mem hbefore
  have hstop : ∀ c ∈ (d :: after).head?, (c != d) = false := by simp
  rw [cut?_append hbefore, takeWhile_append_of_stop hrun hstop, dropWhile_append_of_stop hrun hstop]
  rfl

/-! ### Words -/

theorem pieces_ne_nil (p : Char → Bool) (cs : List Char) : pieces p cs ≠ [] := by
  cases cs with
  | nil => exact List.cons_ne_nil _ _
  | cons c cs =>
    unfold pieces
    split
    · exact List.cons_ne_nil _ _
    · split
      · exact List.cons_ne_nil _ _
      · exact List.cons_ne_nil _ _

theorem pieces_cons_of_pos {p : Char → Bool} {c : Char} (hc : p c = true) (cs : List Char) :
    pieces p (c :: cs) = [] :: pieces p cs := by
  rw [pieces, if_pos hc]

theorem pieces_cons_of_neg {p : Char → Bool} {c : Char} (hc : p c = false) {cs piece : List Char}
    {rest : List (List Char)} (h : pieces p cs = piece :: rest) : pieces p (c :: cs) = (c :: piece) :: rest := by
  rw [pieces, hc, h]
  rfl

/-- A text comes apart at a character that it is cut at. -/
theorem pieces_append {p : Char → Bool} {d : Char} (hd : p d = true) (cs ds : List Char) :
    pieces p (cs ++ d :: ds) = pieces p cs ++ pieces p ds := by
  induction cs with
  | nil => exact pieces_cons_of_pos hd ds
  | cons c cs ih =>
    cases hc : p c with
    | true =>
      rw [List.cons_append, pieces_cons_of_pos hc, pieces_cons_of_pos hc, ih]
      rfl
    | false =>
      obtain ⟨piece, rest, hcs⟩ := List.exists_cons_of_ne_nil (pieces_ne_nil p cs)
      rw [List.cons_append, pieces_cons_of_neg hc hcs, pieces_cons_of_neg hc (ih.trans (congrArg (· ++ _) hcs))]
      rfl

theorem pieces_of_forall {p : Char → Bool} {cs : List Char} (h : ∀ c ∈ cs, p c = false) : pieces p cs = [cs] := by
  induction cs with
  | nil => rfl
  | cons c cs ih =>
    obtain ⟨hc, hcs⟩ := List.forall_mem_cons.mp h
    exact pieces_cons_of_neg hc (ih hcs)

theorem pieces_of_not_mem {d : Char} {cs : List Char} (h : d ∉ cs) : pieces (· == d) cs = [cs] := by
  refine pieces_of_forall fun c hc => beq_eq_false_iff_ne.mpr ?_
  rintro rfl
  exact h hc

theorem of_mem_pieces {p : Char → Bool} {cs : List Char} : ∀ piece ∈ pieces p cs, ∀ c ∈ piece, p c = false := by
  induction cs with
  | nil => simp [pieces]
  | cons c cs ih =>
    cases hc : p c with
    | true =>
      rw [pieces_cons_of_pos hc]
      exact List.forall_mem_cons.mpr ⟨List.forall_mem_nil _, ih⟩
    | false =>
      obtain ⟨piece, rest, hcs⟩ := List.exists_cons_of_ne_nil (pieces_ne_nil p cs)
      rw [hcs] at ih
      obtain ⟨hpiece, hrest⟩ := List.forall_mem_cons.mp ih
      rw [pieces_cons_of_neg hc hcs]
      exact List.forall_mem_cons.mpr ⟨List.forall_mem_cons.mpr ⟨hc, hpiece⟩, hrest⟩

/-- A word: a run without white space. -/
structure IsWord (cs : List Char) : Prop where
  nonempty : cs ≠ []
  noBlank : ∀ c ∈ cs, isBlank c = false

theorem isWord_of_mem_words {cs word : List Char} (h : word ∈ words cs) : IsWord word := by
  obtain ⟨hpiece, hne⟩ := List.mem_filter.mp h
  exact ⟨by simpa using hne, of_mem_pieces word hpiece⟩

theorem words_append {c : Char} (hc : isBlank c = true) (cs ds : List Char) :
    words (cs ++ c :: ds) = words cs ++ words ds := by
  unfold words
  rw [pieces_append hc, List.filter_append]

theorem IsWord.words_eq {cs : List Char} (h : IsWord cs) : words cs = [cs] := by
  unfold words
  rw [pieces_of_forall h.noBlank, List.filter_cons_of_pos (by simpa using h.nonempty), List.filter_nil]

theorem join_cons_cons (d : Char) (text next : List Char) (rest : List (List Char)) :
    join [d] (text :: next :: rest) = text ++ d :: join [d] (next :: rest) := by
  rw [join, List.append_assoc, List.singleton_append]
  exact List.cons_ne_nil _ _

/-- Words with spaces between them are read back. -/
theorem words_join {ws : List (List Char)} (h : ∀ word ∈ ws, IsWord word) : words (join [' '] ws) = ws := by
  induction ws with
  | nil => rfl
  | cons word ws ih =>
    obtain ⟨hword, hws⟩ := List.forall_mem_cons.mp h
    cases ws with
    | nil => exact hword.words_eq
    | cons next ws =>
      rw [join_cons_cons, words_append (by decide), hword.words_eq, ih hws]
      rfl

/-! ### White space around a text -/

/-- A text that neither begins nor ends with white space, and is not empty. -/
structure Trimmed (cs : List Char) : Prop where
  head : ∃ c ∈ cs.head?, isBlank c = false
  last : ∃ c ∈ cs.getLast?, isBlank c = false

namespace Trimmed

theorem ne_nil {cs : List Char} (h : Trimmed cs) : cs ≠ [] := by
  rintro rfl
  obtain ⟨c, hc, -⟩ := h.head
  cases hc

/-- Only the first and the last stretch of a text count. -/
theorem append {cs ds : List Char} (hcs : Trimmed cs) (between : List Char) (hds : Trimmed ds) :
    Trimmed (cs ++ (between ++ ds)) where
  head := by
    obtain ⟨c, hc, hblank⟩ := hcs.head
    exact ⟨c, by rw [List.head?_append, hc]; rfl, hblank⟩
  last := by
    obtain ⟨c, hc, hblank⟩ := hds.last
    exact ⟨c, by rw [List.getLast?_append, List.getLast?_append, hc]; rfl, hblank⟩

theorem singleton {c : Char} (h : isBlank c = false) : Trimmed [c] := ⟨⟨c, rfl, h⟩, ⟨c, rfl, h⟩⟩

theorem cons {c : Char} {cs : List Char} (hc : isBlank c = false) (between : List Char) (h : Trimmed cs) :
    Trimmed (c :: (between ++ cs)) := (singleton hc).append between h

theorem of_forall {cs : List Char} (hne : cs ≠ []) (h : ∀ c ∈ cs, isBlank c = false) : Trimmed cs where
  head := ⟨cs.head hne, List.head?_eq_some_head hne, h _ (List.head_mem hne)⟩
  last := ⟨cs.getLast hne, List.getLast?_eq_some_getLast hne, h _ (List.getLast_mem hne)⟩

theorem trim_eq {cs : List Char} (h : Trimmed cs) : trim cs = cs := by
  have dropWhile_eq : ∀ {ds : List Char}, (∃ c ∈ ds.head?, isBlank c = false) → ds.dropWhile isBlank = ds := by
    rintro ds ⟨c, hc, hblank⟩
    obtain ⟨rest, rfl⟩ := List.head?_eq_some_iff.mp hc
    exact List.dropWhile_cons_of_neg (by simp [hblank])
  have hlast : ∃ c ∈ cs.reverse.head?, isBlank c = false := by
    rw [List.head?_reverse]
    exact h.last
  unfold trim trimStart trimEnd
  rw [dropWhile_eq h.head, dropWhile_eq hlast, List.reverse_reverse]

end Trimmed

theorem isBlank_of_trim_eq_nil {cs : List Char} (h : trim cs = []) : ∀ c ∈ cs, isBlank c = true := by
  have hstart : ∀ c ∈ trimStart cs, isBlank c = true := fun c hc => by
    rw [trim, trimEnd, List.reverse_eq_nil_iff, List.dropWhile_eq_nil_iff] at h
    exact h c (List.mem_reverse.mpr hc)
  -- Nothing is left to begin with, since it would begin with something else than white space.
  have hnil : trimStart cs = [] := by
    cases hcs : trimStart cs with
    | nil => rfl
    | cons c rest =>
      have hblank : isBlank c = false := of_mem_head?_dropWhile (congrArg List.head? hcs)
      rw [hcs] at hstart
      rw [hstart c List.mem_cons_self] at hblank
      cases hblank
  exact List.dropWhile_eq_nil_iff.mp hnil

theorem trim_of_isBlank {cs : List Char} (h : ∀ c ∈ cs, isBlank c = true) : trim cs = [] := by
  rw [trim, trimStart, List.dropWhile_eq_nil_iff.mpr h]
  rfl

theorem isEmpty_trim (cs : List Char) : (trim cs).isEmpty = isBlankText cs := by
  rw [Bool.eq_iff_iff, List.isEmpty_iff, isBlankText, List.all_eq_true]
  exact ⟨isBlank_of_trim_eq_nil, trim_of_isBlank⟩

/-! ### White space is dropped only at the ends -/

section Trim
variable {c : Char} {before core after : List Char}

theorem trimStart_append_cons (hc : isBlank c = false) (before after : List Char) :
    trimStart (before ++ c :: after) = trimStart before ++ c :: after := by
  induction before with
  | nil => exact List.dropWhile_cons_of_neg (by simp [hc])
  | cons b before ih =>
    cases hb : isBlank b with
    | true =>
      rw [List.cons_append, trimStart, trimStart, List.dropWhile_cons_of_pos hb, List.dropWhile_cons_of_pos hb]
      exact ih
    | false =>
      have hneg : ¬isBlank b = true := by simp [hb]
      rw [List.cons_append, trimStart, trimStart, List.dropWhile_cons_of_neg hneg, List.dropWhile_cons_of_neg hneg]
      rfl

theorem trimEnd_append_cons (hc : isBlank c = false) (before after : List Char) :
    trimEnd (before ++ c :: after) = before ++ c :: trimEnd after := by
  have hreverse : (before ++ c :: after).reverse = after.reverse ++ c :: before.reverse := by simp
  have hstart := trimStart_append_cons hc after.reverse before.reverse
  rw [trimEnd, hreverse]
  show (trimStart _).reverse = _
  rw [hstart]
  simp [trimEnd, trimStart]

theorem trim_append_cons (hc : isBlank c = false) (before after : List Char) :
    trim (before ++ c :: after) = trimStart before ++ c :: trimEnd after := by
  rw [trim, trimStart_append_cons hc, trimEnd_append_cons hc]

theorem trimStart_append_of_isBlank (hbefore : ∀ c ∈ before, isBlank c = true) (hcore : Trimmed core)
    (after : List Char) :
    trimStart (before ++ (core ++ after)) = core ++ after := by
  refine dropWhile_append_of_stop hbefore ?_
  obtain ⟨c, hc, hblank⟩ := hcore.head
  obtain ⟨rest, rfl⟩ := List.head?_eq_some_iff.mp hc
  rintro _ ⟨⟩
  exact hblank

theorem trimEnd_append_of_isBlank (before : List Char) (hcore : Trimmed core)
    (hafter : ∀ c ∈ after, isBlank c = true) : trimEnd (before ++ (core ++ after)) = before ++ core := by
  obtain ⟨c, hc, hblank⟩ := hcore.last
  obtain ⟨init, rfl⟩ := List.getLast?_eq_some_iff.mp hc
  have hnil : trimEnd after = [] := by
    rw [trimEnd, List.dropWhile_eq_nil_iff.mpr (by simpa using hafter), List.reverse_nil]
  have hsplit : before ++ (init ++ [c] ++ after) = (before ++ init) ++ c :: after := by simp
  rw [hsplit, trimEnd_append_cons hblank, hnil, List.append_assoc]

end Trim
end SearchClient.Text
