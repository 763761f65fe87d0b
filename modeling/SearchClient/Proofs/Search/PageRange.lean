import Mathlib.Algebra.Group.Nat.Defs
import SearchClient.Proofs.Options.Normal
import SearchClient.Proofs.Search.Paging

/-! The range of the numbers that paging works with. They are computed step by step in 64 bits, where a difference must
    not fall below zero, a sum must not grow out of the range, and nothing may be divided by zero; between the bounds
    that normalized options keep, every step succeeds. -/

namespace SearchClient

/-! ### Checked steps -/

namespace Checked

def sub (a b : Nat) : Option Nat := if b ≤ a then some (a - b) else none

def add (a b : Nat) : Option Nat := if a + b < 2 ^ 64 then some (a + b) else none

def div (a b : Nat) : Option Nat := if b = 0 then none else some (a / b)

def mod (a b : Nat) : Option Nat := if b = 0 then none else some (a % b)

/-- A product, or the greatest number if that is smaller. -/
def cappedMul (a b : Nat) : Nat := min (a * b) (2 ^ 64 - 1)

def offset (page perPage : Nat) : Option Nat := do
  let before ← sub page 1
  return cappedMul before perPage

/-- The outer value is there if all steps succeed, the inner one if there is such a page. -/
def previousPage (page : Nat) : Option (Option Nat) :=
  if 1 < page then (sub page 1).map some else some none

def pageCount (total perPage : Nat) : Option Nat := do
  let full ← div total perPage
  let rest ← mod total perPage
  if 0 < rest then add full 1 else return full

/-- The next number is computed on the last page, too. -/
def nextPage (page count : Nat) : Option (Option Nat) := do
  let next ← add page 1
  return if page < count then some next else none

variable {page perPage total : Nat}

theorem offset_eq (hpage : 1 ≤ page) : offset page perPage = some (Request.pageOffset page perPage) := by
  rw [offset, sub, if_pos hpage]
  rfl

theorem previousPage_eq (search : Search) : previousPage search.options.page = some search.previousPage? := by
  unfold previousPage Search.previousPage?
  split
  · next hlt =>
    rw [sub, if_pos (Nat.le_of_lt hlt)]
    rfl
  · rfl

/-- The quotient that is rounded up is the quotient, and one more if there is a rest. -/
theorem pagesFor_eq (hperPage : 1 ≤ perPage) :
    Search.pagesFor total perPage = total / perPage + if 0 < total % perPage then 1 else 0 := by
  have hsum : total + perPage - 1 = perPage * (total / perPage) + (total % perPage + (perPage - 1)) := by
    have hdiv := Nat.div_add_mod total perPage
    omega
  have hlt := Nat.mod_lt total hperPage
  rw [Search.pagesFor, hsum, Nat.mul_add_div hperPage, Nat.add_right_inj]
  split
  · rw [Nat.div_eq_iff hperPage]
    omega
  · rw [Nat.div_eq_of_lt]
    omega

theorem pageCount_eq (hperPage : 1 ≤ perPage) (htotal : total < 2 ^ 64) :
    pageCount total perPage = some (Search.pagesFor total perPage) := by
  have hzero : perPage ≠ 0 := Nat.ne_of_gt hperPage
  rw [pageCount, div, mod, if_neg hzero, if_neg hzero, pagesFor_eq hperPage]
  show (if 0 < total % perPage then add (total / perPage) 1 else some (total / perPage)) = _
  split
  · next hrest =>
    -- There is no rest behind a division by one, so the quotient is smaller than the total.
    have hlt : total / perPage < total := by
      refine Nat.div_lt_self ?_ ?_
      · exact Nat.pos_of_ne_zero fun hzero => by simp [hzero] at hrest
      · refine Nat.lt_of_le_of_ne hperPage fun hone => ?_
        simp [← hone, Nat.mod_one] at hrest
    rw [add, if_pos (by omega)]
  · rfl

theorem nextPage_eq {count : Nat} (hpage : page ≤ 2 ^ 63 - 1) :
    nextPage page count = some (if page < count then some (page + 1) else none) := by
  rw [nextPage, add, if_pos (by omega)]
  rfl

end Checked

/-! ### Searches with normalized options -/

namespace Search
variable {σ E : Type}

/-- With normalized options, page and size of pages are between one and the greatest 64-bit number with a sign. The
    offset of the page, which is that of the request, its neighbors and the number of pages are computed without a step
    that fails. -/
theorem paging_in_range (context : SearchContext) (host : Host σ E) (raw : RawOptions) {search : Search}
    (hpage : context.config.queryDefaults.page ≤ 2 ^ 63 - 1)
    (hperPage : context.config.queryDefaults.perPage ≤ 2 ^ 63 - 1)
    (hoptions : search.options = (SearchOptions.normalize context.config.queryDefaults raw).value) :
    let page := search.options.page
    let perPage := search.options.perPage
    (1 ≤ page ∧ page ≤ 2 ^ 63 - 1) ∧ (1 ≤ perPage ∧ perPage ≤ 2 ^ 63 - 1) ∧
    Checked.offset page perPage = some search.offset ∧
    search.offset = min ((page - 1) * perPage) (2 ^ 64 - 1) ∧
    (∀ built, context.requestFor search.options = .ok built → built.value.offset = search.offset) ∧
    Checked.previousPage page = some search.previousPage? ∧
    ∀ session found, Finds context host search session found → found < 2 ^ 64 →
      ∃ count next, outcome (pageCount context host search) session = .ok count ∧
        Checked.pageCount (min found context.config.daemon.maxMatches) perPage = some count ∧
        outcome (nextPage? context host search) session = .ok next ∧ Checked.nextPage page count = some next := by
  intro page perPage
  have hnormal : (SearchOptions.reading context.config.queryDefaults raw.foldAliases).Normal
      context.config.queryDefaults := by
    refine SearchOptions.normal_reading ?_ ?_ raw.foldAliases
    · rw [Int64.toInt_maxValue]
      omega
    · rw [Int64.toInt_maxValue]
      omega
  have hvalue : search.options = SearchOptions.reading context.config.queryDefaults raw.foldAliases := by
    rw [hoptions, SearchOptions.normalize, SearchOptions.coerce_eq]
  rw [← hvalue] at hnormal
  obtain ⟨hpagePos, hpageLe⟩ := hnormal.page
  obtain ⟨hperPagePos, hperPageLe⟩ := hnormal.perPage
  rw [Int64.toInt_maxValue] at hpageLe hperPageLe
  have hpageLe' : page ≤ 2 ^ 63 - 1 := by omega
  refine ⟨⟨hpagePos, hpageLe'⟩, ⟨hperPagePos, by omega⟩, Checked.offset_eq hpagePos, rfl,
    fun built hbuilt => Request.offset_build hbuilt, Checked.previousPage_eq search,
    fun session found hfinds hfound => ⟨_, _, hfinds.pageCount, ?_, hfinds.nextPage?, Checked.nextPage_eq hpageLe'⟩⟩
  exact Checked.pageCount_eq hperPagePos (Nat.lt_of_le_of_lt (Nat.min_le_left _ _) hfound)

/-- Neither number is positive by default. -/
def pagelessContext : SearchContext := ⟨{ queryDefaults := { page := 0, perPage := 0 } }, .empty⟩

/-- The greatest page that can be asked for, in a text, and a size of pages below zero. -/
def farPage : RawOptions := .ofList [("page", .str " 9223372036854775807 "), ("per_page", .int (-3))]

theorem paging_in_range_farPage :
    let search := (ofRaw pagelessContext farPage).value
    pagelessContext.config.queryDefaults.page ≤ 2 ^ 63 - 1 ∧
    pagelessContext.config.queryDefaults.perPage ≤ 2 ^ 63 - 1 ∧
    search.options.page = 2 ^ 63 - 1 ∧ search.options.perPage = 1 ∧
    Checked.offset (2 ^ 63 - 1) 1 = some search.offset ∧ search.offset = 2 ^ 63 - 2 ∧
    ∃ count next, outcome (pageCount pagelessContext threeMatches search) { world := ⟨(), {}, []⟩ } = .ok count ∧
      Checked.pageCount 3 1 = some count ∧
      outcome (nextPage? pagelessContext threeMatches search) { world := ⟨(), {}, []⟩ } = .ok next ∧
      Checked.nextPage (2 ^ 63 - 1) count = some next := by
  intro search
  have hpage : search.options.page = 2 ^ 63 - 1 := by decide +kernel
  have hperPage : search.options.perPage = 1 := by decide +kernel
  have hnormalized : search.options =
      (SearchOptions.normalize pagelessContext.config.queryDefaults farPage).value := rfl
  obtain ⟨-, -, hoffset, hvalue, -, -, hcount⟩ :=
    paging_in_range pagelessContext threeMatches farPage (by decide) (by decide) hnormalized
  rw [hpage, hperPage] at hoffset hvalue
  have hfinds : Finds pagelessContext threeMatches search { world := ⟨(), {}, []⟩ } 3 := ⟨_, rfl, rfl⟩
  have hnumbers := hcount _ 3 hfinds (by decide)
  rw [hpage, hperPage] at hnumbers
  exact ⟨by decide, by decide, hpage, hperPage, hoffset, hvalue, hnumbers⟩

end Search
end SearchClient
