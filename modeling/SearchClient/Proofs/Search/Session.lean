import SearchClient.Proofs.Search.Course

/-! What the progress of a session keeps through all operations, whatever the host answers: without an execution
    there is nothing, and with one all of it belongs to the reply of that execution. -/

namespace SearchClient.Search
variable {σ E : Type} {context : SearchContext} {host : Host σ E} {search : Search}

def Progress.execution (progress : Progress E) : Progress E := { progress with results := none, excerpted := false }

variable (context search) in
/-- A progress whose parts belong together. -/
structure Progress.Sound (progress : Progress E) : Prop where
  idle : progress.executed = false → progress = {}
  execution : progress.executed = true → IsExecution context search progress.execution
  results : ∀ hits, progress.results = some hits →
    progress.executed = true ∧ (hits.map (·.ref)).Sublist progress.refs
  excerpted : progress.excerpted = true → progress.results.isSome = true
  /-- Before excerpts have been built no hit has any. -/
  plain : progress.excerpted = false → ∀ hits, progress.results = some hits → ∀ hit ∈ hits, hit.excerpts = .empty

namespace Progress.Sound
variable {progress progress' : Progress E}

variable (context search) in
theorem empty : Progress.Sound context search ({} : Progress E) where
  idle _ := rfl
  execution := nofun
  results := nofun
  excerpted := nofun
  plain _ := nofun

theorem keeps {stage : Stage} (h : progress.Sound context search) (hnext : progress.passed = stage.index)
    (hmakes : stage.Makes context search progress progress') : progress'.Sound context search := by
  cases hmakes with
  | execution hexecution =>
    exact {
      idle := fun hidle => nomatch hexecution.executed.symm.trans hidle
      execution := fun _ => { hexecution with unresolved := rfl, unexcerpted := rfl }
      results := fun hits hhits => nomatch hexecution.unresolved.symm.trans hhits
      excerpted := fun hexcerpted => nomatch hexecution.unexcerpted.symm.trans hexcerpted
      plain := fun _ hits hhits => nomatch hexecution.unresolved.symm.trans hhits }
  | @resolution hits hsub hplain =>
    have hexecuted := executed_of_passed_eq hnext
    exact {
      idle := fun hidle => nomatch hexecuted.symm.trans hidle
      execution := h.execution
      results := fun hits' hhits => by
        obtain rfl := Option.some.inj hhits
        exact ⟨hexecuted, hsub⟩
      excerpted := fun _ => rfl
      plain := fun _ hits' hhits => by
        obtain rfl := Option.some.inj hhits
        exact hplain }
  | @excerpts hits hrefs =>
    obtain ⟨before, hbefore⟩ := Option.isSome_iff_exists.mp (resolved_of_passed_eq hnext).2
    obtain ⟨hexecuted, hsub⟩ := h.results before hbefore
    exact {
      idle := fun hidle => nomatch hexecuted.symm.trans hidle
      execution := h.execution
      results := fun hits' hhits => by
        obtain rfl := Option.some.inj hhits
        rw [hrefs, hbefore]
        exact ⟨hexecuted, hsub⟩
      excerpted := fun _ => rfl
      plain := nofun }

theorem get?_facets (h : progress.Sound context search) (hexecuted : progress.executed = true) {field : String}
    (hfield : field ∈ search.options.facets) : ∃ counts, progress.facets.get? field = some counts :=
  SortedMap.mem_keys_iff.mp (((h.execution hexecuted).facets field).mpr hfield)

/-- In a progress whose parts belong together the stages have been passed in their order. -/
theorem isPassed_iff (h : progress.Sound context search) (stage : Stage) :
    stage.isPassed progress = true ↔ stage.index < progress.passed := by
  cases stage with
  | execution => exact zero_lt_passed_iff.symm
  | resolution =>
    refine Iff.trans ⟨fun hresults => ?_, And.right⟩ one_lt_passed_iff.symm
    obtain ⟨hits, hhits⟩ := Option.isSome_iff_exists.mp hresults
    exact ⟨(h.results hits hhits).1, hresults⟩
  | excerpts =>
    refine Iff.trans ⟨fun hexcerpted => ?_, fun hall => hall.2.2⟩ two_lt_passed_iff.symm
    obtain ⟨hits, hhits⟩ := Option.isSome_iff_exists.mp (h.excerpted hexcerpted)
    exact ⟨(h.results hits hhits).1, h.excerpted hexcerpted, hexcerpted⟩

end Progress.Sound

theorem Course.sound {session session' : Session σ E} {attempts : List (Attempt E)}
    (h : Course context host search session attempts session') (hsession : session.progress.Sound context search) :
    session'.progress.Sound context search := h.induct hsession fun h hnext hmakes => h.keeps hnext hmakes

/-! ### All operations -/

section Operations
variable {P : Progress E → Prop} {session : Session σ E}

theorem Operation.entry_keeps (hempty : P {}) (operation : Operation) (h : P session.progress) :
    P (operation.entry session).progress := by
  cases operation with
  | run | runIds => exact hempty
  | access => exact h

theorem perform_keeps (hempty : P {})
    (hstep : ∀ {stage : Stage} {progress progress' : Progress E}, P progress → progress.passed = stage.index →
      stage.Makes context search progress progress' → P progress')
    (operation : Operation) (h : P session.progress) :
    P (perform context host search operation session).2.progress := by
  have hentry := operation.entry_keeps hempty h
  rw [perform_eq_access]
  rcases access_cases context host search operation.accessor (operation.entry session) with
    ⟨error, -, hrefused⟩ | ⟨-, reached, ⟨attempts, hcourse, -⟩, hend⟩
  · rw [hrefused]
    exact hentry
  · have hreached := hcourse.induct hentry hstep
    rcases hend with ⟨hanswer, -⟩ | ⟨stage, -, error, session', ⟨-, hprogress, -⟩, herror⟩
    · rw [hanswer]
      exact hreached
    · rw [herror, hprogress]
      exact hreached

theorem performAll_keeps (hempty : P {})
    (hstep : ∀ {stage : Stage} {progress progress' : Progress E}, P progress → progress.passed = stage.index →
      stage.Makes context search progress progress' → P progress') :
    ∀ (operations : List Operation) (session : Session σ E), P session.progress →
      P (performAll context host search operations session).2.progress
  | [], _, h => h
  | operation :: operations, _, h =>
    performAll_keeps hempty hstep operations _ (perform_keeps hempty hstep operation h)

theorem sound_performAll (operations : List Operation) (world : World σ) :
    (performAll context host search operations { world }).2.progress.Sound context search :=
  performAll_keeps (.empty context search) (fun h hnext hmakes => h.keeps hnext hmakes) operations _
    (.empty context search)

end Operations

variable (context host search) in
theorem ensureRun_cases (session : Session σ E) :
    (∃ session', ensureRun context host search session = (.ok session'.progress, session') ∧
      Passes context host search session session' ∧ session'.progress.executed = true) ∨
    ∃ error session', ensureRun context host search session = (.error error, session') := by
  rw [ensureRun_eq]
  have hnext : Stage.execution.index ≤ session.progress.passed := Nat.zero_le _
  rcases advance_cases context host search .execution hnext with
    ⟨session', hadvance, hpasses, hlt⟩ | ⟨error, session', hadvance, -⟩
  · refine .inl ⟨session', bind_of_ok hadvance, hpasses, ?_⟩
    exact zero_lt_passed_iff.mp hlt
  · exact .inr ⟨error, session', bind_of_error hadvance⟩

theorem facet_of_mem (context : SearchContext) (host : Host σ E) (search : Search) {field : String}
    (hfield : field ∈ search.options.facets) :
    facet context host search field = (ensureRun context host search >>= fun progress =>
      match progress.facets.get? field with
      | some counts => return counts
      | none => throw (.noFacetCounts field)) := by
  rw [facet, List.contains_iff_mem.mpr hfield]
  rfl

/-- After every sequence of operations the parts of the progress belong together, and the counts of a requested field
    are there as soon as there is an execution. -/
theorem performAll_sound (context : SearchContext) (host : Host σ E) (search : Search) (operations : List Operation)
    (world : World σ) :
    let session := (performAll context host search operations { world }).2
    session.progress.Sound context search ∧
    ∀ field ∈ search.options.facets,
      match ensureRun context host search session with
      | (.ok progress, session') => ∃ counts, progress.facets.get? field = some counts ∧
        facet context host search field session = (.ok counts, session')
      | (.error error, session') => facet context host search field session = (.error error, session') := by
  intro session
  have hsound : session.progress.Sound context search := sound_performAll operations world
  refine ⟨hsound, fun field hfield => ?_⟩
  rw [facet_of_mem context host search hfield]
  rcases ensureRun_cases context host search session with
    ⟨session', hrun, ⟨attempts, hcourse, -⟩, hexecuted⟩ | ⟨error, session', hrun⟩
  · obtain ⟨counts, hcounts⟩ := (hcourse.sound hsound).get?_facets hexecuted hfield
    rw [bind_of_ok hrun, hrun, hcounts]
    exact ⟨counts, hcounts, rfl⟩
  · rw [bind_of_error hrun, hrun]

def dogByColor : Search :=
  .ofOptions ⟨{}, .empty⟩
    { query := "dog", page := 1, perPage := 2, classNames := [], sortMode := "relevance", sortBy := none,
      weights := .empty, filters := .empty, facets := ["color"] }

/-- A host that finds one match, and the record of it. -/
def redSeller : Host Unit Unit :=
  { Host.replying fun _ _ => .ok { totalFound := 1, matched := [⟨7, 0, 1⟩], groups := [⟨"red", 10⟩] } with
    resolve := fun _ keys s => (.ok (keys.map fun _ => some ()), s) }

theorem performAll_sound_dogByColor :
    let context : SearchContext := ⟨{}, .ofPairs [("Seller", 0)]⟩
    let session := (performAll context redSeller dogByColor [.run, .access .excerpt] { world := ⟨(), {}, []⟩ }).2
    session.progress.Sound context dogByColor ∧ session.progress.refs = [⟨"Seller", 7⟩] ∧
    session.progress.results.map (·.map (·.ref)) = some [⟨"Seller", 7⟩] ∧ session.progress.excerpted = true ∧
    "color" ∈ dogByColor.options.facets ∧
    ∃ counts, session.progress.facets.get? "color" = some counts ∧ counts.get? "red" = some 10 ∧
      outcome (facet context redSeller dogByColor "color") session = .ok counts := by
  intro context session
  obtain ⟨hsound, hfacet⟩ := performAll_sound context redSeller dogByColor [.run, .access .excerpt] ⟨(), {}, []⟩
  have hrun := ensureRun_of_executed context redSeller dogByColor (show session.progress.executed = true by decide)
  have hcolor := hfacet "color" (by decide)
  rw [hrun] at hcolor
  obtain ⟨counts, hcounts, hanswer⟩ := hcolor
  have hred : (session.progress.facets.get? "color").bind (·.get? "red") = some 10 := by decide
  rw [hcounts] at hred
  exact ⟨hsound, by decide, by decide, by decide, by decide, counts, hcounts, hred, congrArg Prod.fst hanswer⟩

end SearchClient.Search
