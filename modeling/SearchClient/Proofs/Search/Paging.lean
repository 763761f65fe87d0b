import Mathlib.Data.Nat.Init
import SearchClient.Proofs.Request.Build
import SearchClient.Proofs.Search.Action
import SearchClient.Search.Basic

/-! The pages of a search. The windows of the pages are disjoint and cover the matches that can be paged through,
    and the next pages from the first page on are all pages in order. -/

namespace SearchClient

/-- Whether the window of a request holds the match with an index. -/
def Request.Covers (request : Request) (i : Nat) : Prop :=
  request.offset ≤ i ∧ i < request.offset + request.limit

/-! ### Windows -/

section Windows
variable {total perPage maxMatches i : Nat}

/-- The window of a page holds the matches that division by the size of pages takes to the page, as far as the
    offset is not capped and there are that many matches. -/
theorem mem_window_iff {page : Nat} (hperPage : 1 ≤ perPage) (hpage : 1 ≤ page) (hoffset : i < Request.maxOffset)
    (hmatches : i < maxMatches) :
    (Request.pageOffset page perPage ≤ i ∧ i < Request.pageOffset page perPage + min perPage maxMatches) ↔
      page = i / perPage + 1 := by
  obtain ⟨before, rfl⟩ : ∃ before, page = before + 1 := ⟨page - 1, by omega⟩
  have hdiv : before + 1 = i / perPage + 1 ↔ before * perPage ≤ i ∧ i < before * perPage + perPage := by
    rw [Nat.add_right_cancel_iff, eq_comm, Nat.div_eq_iff hperPage]
    omega
  rw [hdiv, Request.pageOffset, Nat.add_sub_cancel]
  -- Neither cap matters in front of `maxOffset` and `maxMatches`.
  omega

theorem div_add_one_le_pagesFor (hperPage : 1 ≤ perPage) (hi : i < total) :
    i / perPage + 1 ≤ Search.pagesFor total perPage := by
  rw [Search.pagesFor, Nat.le_div_iff_mul_le hperPage, Nat.add_mul]
  have := Nat.div_mul_le_self i perPage
  omega

theorem pagesFor_zero (hperPage : 1 ≤ perPage) : Search.pagesFor 0 perPage = 0 :=
  Nat.div_eq_of_lt (by omega)

end Windows

/-! ### Going from page to page -/

/-- Going on from a page leads to some pages, the first of which it is, and ends at the last of them. -/
inductive Visits {ε : Type} (next : Nat → Except ε (Option Nat)) : Nat → List Nat → Prop
  | last {page : Nat} : next page = .ok none → Visits next page [page]
  | go {page page' : Nat} {pages : List Nat} :
      next page = .ok (some page') → Visits next page' pages → Visits next page (page :: pages)

theorem visits_iff {ε : Type} {next : Nat → Except ε (Option Nat)} {count : Nat}
    (hnext : ∀ page, 1 ≤ page → next page = .ok (if page < count then some (page + 1) else none)) (n : Nat) :
    ∀ page, 1 ≤ page → page + n = count → ∀ pages, Visits next page pages ↔ pages = List.range' page (n + 1) := by
  induction n with
  | zero =>
    intro page hpage hcount pages
    have hlast : next page = .ok none := by rw [hnext page hpage, if_neg (by omega)]
    constructor
    · intro h
      cases h with
      | last => rfl
      | go hgo =>
        rw [hlast] at hgo
        cases hgo
    · rintro rfl
      exact .last hlast
  | succ n ih =>
    intro page hpage hcount pages
    have hgo : next page = .ok (some (page + 1)) := by rw [hnext page hpage, if_pos (by omega)]
    have hrest := ih (page + 1) (by omega) (by omega)
    constructor
    · intro h
      cases h with
      | last hlast =>
        rw [hgo] at hlast
        cases hlast
      | go hgo' h =>
        rw [hgo] at hgo'
        cases hgo'
        rw [(hrest _).mp h]
        rfl
    · rintro rfl
      exact .go hgo ((hrest _).mpr rfl)

namespace Search
variable {σ E : Type} {context : SearchContext} {host : Host σ E} {search : Search} {session : Session σ E}

def onPage (search : Search) (page : Nat) : Search := { search with options := { search.options with page } }

/-- A search finds a number of matches, in its last execution or else in the one that it makes when asked. -/
def Finds (context : SearchContext) (host : Host σ E) (search : Search) (session : Session σ E)
    (found : Nat) : Prop :=
  ∃ progress, outcome (ensureRun context host search) session = .ok progress ∧ progress.response.totalFound = found

namespace Finds
variable {found : Nat}

theorem totalEntries (h : Finds context host search session found) :
    outcome (totalEntries context host search) session = .ok (min found context.config.daemon.maxMatches) := by
  obtain ⟨progress, hrun, rfl⟩ := h
  exact outcome_bind_of_ok hrun

theorem pageCount (h : Finds context host search session found) : outcome (pageCount context host search) session =
    .ok (pagesFor (min found context.config.daemon.maxMatches) search.options.perPage) :=
  outcome_bind_of_ok h.totalEntries

theorem nextPage? (h : Finds context host search session found) : outcome (nextPage? context host search) session =
    .ok (if search.options.page < pagesFor (min found context.config.daemon.maxMatches) search.options.perPage
      then some (search.options.page + 1) else none) :=
  outcome_bind_of_ok h.pageCount

end Finds

/-- The windows of the pages, for every match that can be paged through exactly one of them; going on from the first
    page visits all pages in order and then stops, and going back undoes each step. -/
theorem pages_tile (context : SearchContext) (host : Host σ E) (search : Search)
    {session : Nat → Session σ E} {built : Nat → Reported Request} {found : Nat} (hperPage : 1 ≤ search.options.perPage)
    (hbuilt : ∀ page, 1 ≤ page → context.requestFor (search.onPage page).options = .ok (built page))
    (hfound : ∀ page, 1 ≤ page → Finds context host (search.onPage page) (session page) found)
    (htotal : min found context.config.daemon.maxMatches < UInt64.size) :
    ∃ total count,
      (∀ page, 1 ≤ page →
        outcome (totalEntries context host (search.onPage page)) (session page) = .ok total ∧
        outcome (pageCount context host (search.onPage page)) (session page) = .ok count) ∧
      (∀ i < total, ∃ page, 1 ≤ page ∧ page ≤ count ∧
        ∀ page', 1 ≤ page' → ((built page').value.Covers i ↔ page' = page)) ∧
      (0 < total → ∀ pages,
        Visits (fun page => outcome (nextPage? context host (search.onPage page)) (session page)) 1 pages ↔
          pages = List.range' 1 count) ∧
      (∀ page page', 1 ≤ page →
        outcome (nextPage? context host (search.onPage page)) (session page) = .ok (some page') →
          (search.onPage page').previousPage? = some page) ∧
      (total = 0 → count = 0 ∧ ∀ page, 1 ≤ page →
        outcome (nextPage? context host (search.onPage page)) (session page) = .ok none) := by
  have hnext : ∀ page, 1 ≤ page → outcome (nextPage? context host (search.onPage page)) (session page) =
      .ok (if page < pagesFor (min found context.config.daemon.maxMatches) search.options.perPage
        then some (page + 1) else none) := fun page hpage => (hfound page hpage).nextPage?
  refine ⟨min found context.config.daemon.maxMatches,
    pagesFor (min found context.config.daemon.maxMatches) search.options.perPage,
    fun page hpage => ⟨(hfound page hpage).totalEntries, (hfound page hpage).pageCount⟩, fun i hi => ?_,
    fun hpos pages => ?_, fun page page' hpage hgo => ?_, fun hzero => ?_⟩
  · refine ⟨i / search.options.perPage + 1, Nat.le_add_left 1 _, div_add_one_le_pagesFor hperPage hi,
      fun page' hpage' => ?_⟩
    rw [Request.Covers, Request.offset_build (hbuilt page' hpage'), Request.limit_build (hbuilt page' hpage')]
    have hoffset : i < Request.maxOffset := by
      rw [Request.maxOffset]
      omega
    exact mem_window_iff hperPage hpage' hoffset (by omega)
  · have hcount := div_add_one_le_pagesFor hperPage hpos
    rw [Nat.zero_div] at hcount
    have hvisits := visits_iff hnext
      (pagesFor (min found context.config.daemon.maxMatches) search.options.perPage - 1) 1 (Nat.le_refl 1)
    rw [Nat.sub_add_cancel hcount, Nat.add_sub_cancel' hcount] at hvisits
    exact hvisits rfl pages
  · rw [hnext page hpage] at hgo
    split at hgo
    · obtain rfl := Option.some.inj (Except.ok.inj hgo)
      exact if_pos (Nat.lt_add_of_pos_left hpage)
    · cases hgo
  · rw [hzero, pagesFor_zero hperPage]
    refine ⟨rfl, fun page hpage => ?_⟩
    rw [hnext page hpage, hzero, pagesFor_zero hperPage, if_neg (Nat.not_lt_zero page)]

def threeMatches : Host Unit Unit := .replying fun _ _ => .ok { totalFound := 3 }

def twoPerPage : Search :=
  .ofOptions ⟨{}, .empty⟩
    { query := "dog", page := 1, perPage := 2, classNames := [], sortMode := "relevance", sortBy := none,
      weights := .empty, filters := .empty, facets := [] }

theorem pages_tile_threeMatches :
    outcome (totalEntries ⟨{}, .empty⟩ threeMatches twoPerPage) { world := ⟨(), {}, []⟩ } = .ok 3 ∧
      ∀ pages, Visits (fun page => outcome (nextPage? ⟨{}, .empty⟩ threeMatches (twoPerPage.onPage page))
        { world := ⟨(), {}, []⟩ }) 1 pages ↔ pages = [1, 2] := by
  obtain ⟨total, count, houtcomes, -, hvisits, -⟩ := pages_tile ⟨{}, .empty⟩ threeMatches twoPerPage
    (by decide) (fun _ _ => rfl)
    (fun _ _ => (⟨_, rfl, rfl⟩ : Finds _ _ _ { world := ⟨(), {}, []⟩ } 3)) (by decide)
  obtain ⟨htotal, hcount⟩ := houtcomes 1 (Nat.le_refl 1)
  obtain rfl : 3 = total := Except.ok.inj htotal
  obtain rfl : 2 = count := Except.ok.inj hcount
  exact ⟨htotal, hvisits (by decide)⟩

end Search
end SearchClient
