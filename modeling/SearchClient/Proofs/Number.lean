import SearchClient.Proofs.Text
import SearchClient.Value.Scalar

/-! Numbers in texts. An integer of 64 bits that is printed in decimal is read back, with any white space around it;
two numbers with two points between them are no number. -/

namespace SearchClient
open Text

theorem isBlank_of_isDigit {c : Char} (h : c.isDigit = true) : isBlank c = false := by
  have hval : 48 ≤ c.val ∧ c.val ≤ 57 := by simpa [Char.isDigit] using h
  have hrange : 48 ≤ c.toNat ∧ c.toNat ≤ 57 := hval
  simp [isBlank, Ranges.contains, whiteSpaceRanges]
  omega

/-! ### Printing and reading -/

namespace Text

theorem toList_toString_int (n : Int) :
    (toString n).toList = (if n < 0 then ['-'] else []) ++ Nat.toDigits 10 n.natAbs := by
  rw [Int.toString_eq_repr, Int.repr_eq_if]
  by_cases hn : n < 0
  · have habs : (-n).toNat = n.natAbs := by omega
    rw [if_neg (by omega), if_pos hn, habs, Nat.repr_eq_ofList_toDigits, String.toList_append]
    exact congrArg (['-'] ++ ·) String.toList_ofList
  · have habs : n.toNat = n.natAbs := by omega
    rw [if_pos (by omega), if_neg hn, habs, Nat.repr_eq_ofList_toDigits, String.toList_ofList]
    rfl

theorem isDigit_of_mem_toDigits {n : Nat} : ∀ c ∈ Nat.toDigits 10 n, c.isDigit = true :=
  fun _ => Nat.isDigit_of_mem_toDigits (by omega) (by omega)

theorem signed_of_isDigit {c : Char} (hc : c.isDigit = true) (cs : List Char) : signed (c :: cs) = (false, c :: cs) := by
  unfold signed
  split
  · next heq =>
    cases heq
    cases hc
  · next heq =>
    cases heq
    cases hc
  · rfl

/-- The sign of a printed number is found, whatever follows the number. -/
theorem signed_toString_append (n : Int) (rest : List Char) :
    signed ((toString n).toList ++ rest) = (decide (n < 0), Nat.toDigits 10 n.natAbs ++ rest) := by
  rw [toList_toString_int]
  by_cases hn : n < 0
  · rw [if_pos hn, decide_eq_true hn]
    rfl
  · obtain ⟨c, cs, hdigits⟩ := List.exists_cons_of_ne_nil (Nat.toDigits_ne_nil (n := n.natAbs) (b := 10))
    have hc : c.isDigit = true := isDigit_of_mem_toDigits c (hdigits ▸ List.mem_cons_self)
    rw [if_neg hn, decide_eq_false hn, hdigits]
    exact signed_of_isDigit hc (cs ++ rest)

theorem natural?_toDigits (n : Nat) : natural? (Nat.toDigits 10 n) = some n := by
  have hdigits : (Nat.toDigits 10 n).all Char.isDigit = true := List.all_eq_true.mpr isDigit_of_mem_toDigits
  have hempty : (Nat.toDigits 10 n).isEmpty = false := List.isEmpty_eq_false_iff.mpr Nat.toDigits_ne_nil
  rw [natural?, hdigits, hempty]
  exact congrArg some (Nat.ofDigitChars_eq_foldl.symm.trans Nat.ofDigitChars_ten_toDigits)

theorem natural?_eq_none {cs : List Char} {c : Char} (hc : c ∈ cs) (hdigit : c.isDigit = false) : natural? cs = none := by
  have hall : cs.all Char.isDigit = false := List.all_eq_false.mpr ⟨c, hc, by simp [hdigit]⟩
  rw [natural?, hall]
  simp

theorem integer?_toString (n : Int64) : integer? (toString n.toInt).toList = some n := by
  have hsigned := signed_toString_append n.toInt []
  rw [List.append_nil, List.append_nil] at hsigned
  have hvalue : (if decide (n.toInt < 0) = true then -(n.toInt.natAbs : Int) else n.toInt.natAbs) = n.toInt := by
    by_cases hn : n.toInt < 0
    · rw [if_pos (decide_eq_true hn)]
      omega
    · rw [if_neg (by simpa using hn)]
      omega
  have hfits : Double.fitsInt64 n.toInt = true := by
    rw [Double.fitsInt64, Bool.and_eq_true, decide_eq_true_iff, decide_eq_true_iff]
    exact ⟨n.minValue_le_toInt, n.toInt_le⟩
  rw [integer?, hsigned]
  dsimp only
  rw [natural?_toDigits]
  dsimp only
  rw [hvalue, if_pos hfits, Int64.ofInt_toInt]

/-! ### Two numbers with points between them -/

theorem decimal?_eq_none (negative : Bool) {low : List Char} (hdot : '.' ∉ low) (hmark : ∀ c ∈ low, c ≠ 'e' ∧ c ≠ 'E')
    (high : List Char) : decimal? negative (low ++ '.' :: '.' :: high) = none := by
  have hmantissa : (low ++ '.' :: '.' :: high).takeWhile (fun c => !(c == 'e' || c == 'E')) =
      low ++ '.' :: '.' :: high.takeWhile fun c => !(c == 'e' || c == 'E') := by
    have hlow : ∀ c ∈ low, (!(c == 'e' || c == 'E')) = true := by
      intro c hc
      obtain ⟨he, hE⟩ := hmark c hc
      simp [he, hE]
    rw [List.takeWhile_append_of_pos hlow]
    rfl
  have hrun := bne_of_not_mem hdot
  unfold decimal?
  dsimp only
  -- The second point is among the digits behind the first.
  rw [hmantissa, takeWhile_append_of_stop hrun (by simp), dropWhile_append_of_stop hrun (by simp),
    natural?_eq_none (c := '.') (by simp) (by decide)]

theorem integer?_and_double?_eq_none {cs low high : List Char} {negative : Bool}
    (hsigned : signed cs = (negative, low ++ '.' :: '.' :: high)) (hdot : '.' ∉ low)
    (hmark : ∀ c ∈ low, c ≠ 'e' ∧ c ≠ 'E') : integer? cs = none ∧ double? cs = none := by
  constructor
  · rw [integer?, hsigned]
    dsimp only
    rw [natural?_eq_none (c := '.') (by simp) (by decide)]
  · have hname (name : List Char) (hno : '.' ∉ name) :
        ((low ++ '.' :: '.' :: high).map Char.toLower == name) = false := by
      refine beq_eq_false_iff_ne.mpr fun heq => hno ?_
      rw [← heq]
      exact List.mem_map.mpr ⟨'.', by simp, rfl⟩
    rw [double?, hsigned]
    dsimp only
    rw [hname _ (by decide), hname _ (by decide), hname _ (by decide)]
    exact decimal?_eq_none negative hdot hmark high

theorem trim_append_points (low high : List Char) :
    trim (low ++ '.' :: '.' :: high) = trimStart low ++ '.' :: '.' :: trimEnd high := by
  rw [trim_append_cons (by decide)]
  exact congrArg _ (congrArg _ (trimEnd_append_cons (by decide) [] high))

/-! ### White space around a number -/

/-- A text in which a number stands in decimal, with white space around it. -/
def Prints (n : Int64) (text : List Char) : Prop :=
  ∃ before after, text = before ++ ((toString n.toInt).toList ++ after) ∧
    (∀ c ∈ before, isBlank c = true) ∧ ∀ c ∈ after, isBlank c = true

theorem eq_or_isDigit_of_mem_toString {n : Int} {c : Char} (h : c ∈ (toString n).toList) : c = '-' ∨ c.isDigit = true := by
  rw [toList_toString_int] at h
  rcases List.mem_append.mp h with h | h
  · split at h
    · exact .inl (List.mem_singleton.mp h)
    · cases h
  · exact .inr (isDigit_of_mem_toDigits c h)

theorem trimmed_toString (n : Int) : Trimmed (toString n).toList := by
  refine .of_forall ?_ fun c hc => ?_
  · rw [toList_toString_int]
    exact fun h => Nat.toDigits_ne_nil (List.append_eq_nil_iff.mp h).2
  · rcases eq_or_isDigit_of_mem_toString hc with rfl | hdigit
    · decide
    · exact isBlank_of_isDigit hdigit

namespace Prints
variable {n : Int64} {text : List Char}

theorem trimStart (h : Prints n text) : Prints n (trimStart text) := by
  obtain ⟨before, after, rfl, hbefore, hafter⟩ := h
  refine ⟨[], after, ?_, List.forall_mem_nil _, hafter⟩
  exact trimStart_append_of_isBlank hbefore (trimmed_toString n.toInt) after

theorem trimEnd (h : Prints n text) : Prints n (trimEnd text) := by
  obtain ⟨before, after, rfl, hbefore, hafter⟩ := h
  refine ⟨before, [], ?_, hbefore, List.forall_mem_nil _⟩
  rw [List.append_nil]
  exact trimEnd_append_of_isBlank before (trimmed_toString n.toInt) hafter

theorem trim_eq (h : Prints n text) : trim text = (toString n.toInt).toList := by
  obtain ⟨before, after, rfl, hbefore, hafter⟩ := h
  have hcore := trimmed_toString n.toInt
  rw [trim, trimStart_append_of_isBlank hbefore hcore]
  exact trimEnd_append_of_isBlank [] hcore hafter

theorem trim (h : Prints n text) : Prints n (trim text) := h.trimStart.trimEnd

theorem not_mem (h : Prints n text) {c : Char} (hblank : isBlank c = false) (hdigit : c.isDigit = false)
    (hsign : c ≠ '-') : c ∉ text := by
  intro hc
  obtain ⟨before, after, rfl, hbefore, hafter⟩ := h
  rcases List.mem_append.mp hc with hc | hc
  · cases hblank.symm.trans (hbefore c hc)
  rcases List.mem_append.mp hc with hc | hc
  · rcases eq_or_isDigit_of_mem_toString hc with rfl | hc
    · exact hsign rfl
    · cases hdigit.symm.trans hc
  · cases hblank.symm.trans (hafter c hc)

theorem ofNumber?_eq (h : Prints n text) : Scalar.ofNumber? text = some (.int n) := by
  rw [Scalar.ofNumber?, h.trim_eq, integer?_toString]

/-- A number with two points behind it is no longer a number. -/
theorem ofNumber?_append_points (h : Prints n text) (high : List Char) :
    Scalar.ofNumber? (text ++ '.' :: '.' :: high) = none := by
  have htrim := trim_append_points text high
  obtain ⟨before, after, rfl, hbefore, hafter⟩ := h
  rw [trimStart_append_of_isBlank hbefore (trimmed_toString n.toInt), List.append_assoc (toString _).toList] at htrim
  have hsigned := signed_toString_append n.toInt (after ++ '.' :: '.' :: Text.trimEnd high)
  rw [← List.append_assoc (Nat.toDigits 10 _)] at hsigned
  have hne {c d : Char} (hc : c ∈ Nat.toDigits 10 n.toInt.natAbs ++ after) (hblank : isBlank d = false)
      (hdigit : d.isDigit = false) : c ≠ d := by
    rintro rfl
    rcases List.mem_append.mp hc with hc | hc
    · cases hdigit.symm.trans (isDigit_of_mem_toDigits c hc)
    · cases hblank.symm.trans (hafter c hc)
  obtain ⟨hinteger, hdouble⟩ := integer?_and_double?_eq_none hsigned
    (fun hc => hne hc (by decide) (by decide) rfl)
    fun c hc => ⟨hne hc (by decide) (by decide), hne hc (by decide) (by decide)⟩
  rw [Scalar.ofNumber?, htrim, hinteger, hdouble]
  rfl

end Prints
end Text
end SearchClient
