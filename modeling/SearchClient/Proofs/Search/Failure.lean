import SearchClient.Proofs.Search.Session

/-! What failures leave behind: the stages that succeeded before, and nothing of the one that failed. -/

namespace SearchClient.Search
variable {σ E : Type} {context : SearchContext} {host : Host σ E} {search : Search}

/-! ### The progress in front of a stage -/

variable (context search) in
/-- What the progress is like as long as a stage is the next one. -/
def Stage.IsNext (progress : Progress E) : Stage → Prop
  | execution => progress = {}
  | resolution => IsExecution context search progress
  | excerpts => IsExecution context search progress.execution ∧ progress.excerpted = false ∧
      ∃ hits, progress.results = some hits ∧ ∀ hit ∈ hits, hit.excerpts = .empty

theorem Progress.Sound.isNext {stage : Stage} {progress : Progress E} (h : progress.Sound context search)
    (hnext : progress.passed = stage.index) : stage.IsNext context search progress := by
  have hpassed : stage.isPassed progress = false :=
    Bool.eq_false_iff.mpr fun hpassed => Nat.ne_of_gt ((h.isPassed_iff stage).mp hpassed) hnext
  cases stage with
  | execution => exact h.idle hpassed
  | resolution =>
    have hexecuted := executed_of_passed_eq hnext
    have hresults : progress.results = none := by
      cases hresults : progress.results with
      | none => rfl
      | some hits =>
        rw [Stage.isPassed, hresults] at hpassed
        cases hpassed
    have hexcerpted : progress.excerpted = false := by
      cases hexcerpted : progress.excerpted with
      | false => rfl
      | true => cases hpassed.symm.trans (h.excerpted hexcerpted)
    have hself : progress.execution = progress := by rw [Progress.execution, ← hresults, ← hexcerpted]
    exact hself ▸ h.execution hexecuted
  | excerpts =>
    obtain ⟨hexecuted, hresults⟩ := resolved_of_passed_eq hnext
    obtain ⟨hits, hhits⟩ := Option.isSome_iff_exists.mp hresults
    exact ⟨h.execution hexecuted, hpassed, hits, hhits, h.plain hpassed hits hhits⟩

theorem Passes.eq_of_le {session session' : Session σ E} (h : Passes context host search session session')
    (hle : session'.progress.passed ≤ session.progress.passed) : session' = session := by
  obtain ⟨attempts, hcourse, hok⟩ := h
  cases hcourse with
  | done => rfl
  | @succeeded _ _ stage _ _ _ hnext hact hrest =>
    have hlt := (Stage.makes_of_act hact).lt_passed hnext
    have := hrest.passed_le
    dsimp only at this
    omega
  | failed => exact nomatch hok _ (List.mem_cons_self ..)

theorem Progress.Sound.answer {progress : Progress E} (h : progress.Sound context search)
    (hexecuted : progress.executed = true) {accessor : Accessor}
    (hrefusal : accessor.refusal? context search = none) :
    ∃ answer, accessor.answer context search progress = .ok answer := by
  cases accessor with
  | facet field =>
    have hfield : field ∈ search.options.facets := by
      by_contra hmem
      rw [Accessor.refusal?, if_neg (by rwa [List.contains_iff_mem])] at hrefusal
      cases hrefusal
    obtain ⟨counts, hcounts⟩ := h.get?_facets hexecuted hfield
    exact ⟨.facet counts, by rw [Accessor.answer, hcounts]⟩
  | _ => exact ⟨_, rfl⟩

/-! ### Requests that cannot be built -/

theorem execute_of_error {error : SearchError} (h : context.requestFor search.options = .error error)
    (world : World σ) : execute context host search world = (.error error, world) := by
  rw [execute_eq]
  refine bind_of_error ?_
  rw [buildRequest, h]
  rfl

theorem requestFor_of_unknown {error : SearchError} (h : SortMode.ofName? search.options.sortMode = .error error) :
    context.requestFor search.options = .error error := by
  rw [SearchContext.requestFor, Request.build, h]
  rfl

theorem access_of_error {accessor : Accessor} {session : Session σ E} {error : SearchError} {world : World σ}
    (hrefusal : accessor.refusal? context search = none) (hidle : session.progress.executed = false)
    (h : execute context host search session.world = (.error error, world)) :
    access context host search accessor session = (.error error, { session with world }) := by
  have hstages : ∃ stages, accessor.stages = .execution :: stages := by cases accessor <;> exact ⟨_, rfl⟩
  obtain ⟨stages, hstages⟩ := hstages
  rw [access_eq_staged, staged, hrefusal, hstages]
  exact bind_of_error (bind_of_error (advance_of_error hidle h))

theorem perform_of_refusal {operation : Operation} {session : Session σ E} {error : SearchError}
    (hrefusal : operation.accessor.refusal? context search = some error) :
    perform context host search operation session = (.error error, session) := by
  cases operation with
  | run | runIds => cases hrefusal
  | access accessor =>
    rw [perform, access_eq_staged, staged, show accessor.refusal? context search = some error from hrefusal]
    rfl

theorem Operation.entry_eq_self {session : Session σ E} (operation : Operation) (h : session.progress = {}) :
    operation.entry session = session := by
  cases operation with
  | access => rfl
  | run | runIds => exact congrArg (Session.mk · session.world) h.symm

/-! ### All operations -/

/-- After every sequence of operations, one that fails has been refused, or stands in front of the stage that failed;
    refusals and unknown sort modes come before all calls. An operation that executes anew does not see what was there
    before. -/
theorem perform_atomic (context : SearchContext) (host : Host σ E) (search : Search) (operations : List Operation)
    (world : World σ) (operation : Operation) :
    let session := (performAll context host search operations { world }).2
    let start := operation.entry session
    (∀ error final, perform context host search operation session = (.error error, final) →
      operation.accessor.refusal? context search = some error ∧ final = start ∨
      ∃ stage ∈ operation.accessor.stages, ∃ reached, Passes context host search start reached ∧
        (reached = start ∨ start.progress.passed < stage.index) ∧
        FailsAt context host search reached stage error final ∧ stage.IsNext context search final.progress) ∧
    (∀ error, operation.accessor.refusal? context search = some error →
      perform context host search operation session = (.error error, session)) ∧
    (∀ error, SortMode.ofName? search.options.sortMode = .error error →
      perform context host search operation session =
        (.error ((operation.accessor.refusal? context search).getD error), session)) ∧
    ((operation = .run ∨ operation = .runIds) →
      perform context host search operation session =
        perform context host search operation { world := session.world }) := by
  intro session start
  have hsession : session.progress.Sound context search := sound_performAll operations world
  have hsound : start.progress.Sound context search :=
    operation.entry_keeps (.empty context search) hsession
  refine ⟨fun error final herror => ?_, fun error hrefusal => ?_, fun error hunknown => ?_, ?_⟩
  · rw [perform_eq_access] at herror
    rcases access_cases context host search operation.accessor start with
      ⟨error', hrefusal, hrefused⟩ | ⟨hrefusal, reached, hpasses, hend⟩
    · obtain ⟨hsame, rfl⟩ := Prod.mk.inj (hrefused.symm.trans herror)
      obtain rfl := Except.error.inj hsame
      exact .inl ⟨hrefusal, rfl⟩
    · have hreached : reached.progress.Sound context search := by
        obtain ⟨attempts, hcourse, -⟩ := hpasses
        exact hcourse.sound hsound
      rcases hend with ⟨hanswer, hpassed⟩ | ⟨stage, hmem, error', session', hfails, hfailed⟩
      -- Behind its stages an accessor has an answer: the counts of a requested field are there.
      · obtain ⟨answer, hok⟩ := hreached.answer
          (zero_lt_passed_iff.mp (Nat.lt_of_lt_of_le operation.accessor.length_stages_pos hpassed)) hrefusal
        rw [hanswer, hok] at herror
        cases herror
      · obtain ⟨hsame, rfl⟩ := Prod.mk.inj (hfailed.symm.trans herror)
        obtain rfl := Except.error.inj hsame
        have hnext : reached.progress.passed = stage.index := hfails.1
        have hwhere : reached = start ∨ start.progress.passed < stage.index := by
          rw [← hnext]
          exact (Nat.lt_or_ge _ _).symm.imp_left hpasses.eq_of_le
        refine .inr ⟨stage, hmem, reached, hpasses, hwhere, hfails, ?_⟩
        rw [hfails.2.1]
        exact hreached.isNext hnext
  · exact perform_of_refusal hrefusal
  -- Nothing has been executed, since an execution would have had a request.
  · have hidle : session.progress.executed = false := by
      refine Bool.eq_false_iff.mpr fun hexecuted => ?_
      obtain ⟨request, hrequest⟩ := (hsession.execution hexecuted).request
      exact nomatch (requestFor_of_unknown hunknown).symm.trans hrequest
    cases hrefusal : operation.accessor.refusal? context search with
    | some refusal => exact perform_of_refusal hrefusal
    | none =>
      have hstart : start = session := operation.entry_eq_self (hsession.idle hidle)
      rw [perform_eq_access]
      change access context host search operation.accessor start = _
      rw [hstart]
      exact access_of_error hrefusal hidle (execute_of_error (requestFor_of_unknown hunknown) session.world)
  · rintro (rfl | rfl) <;> rfl

/-- A host that finds one match, and not the record of it. -/
def withoutRecords : Host Unit Unit :=
  { Host.replying fun _ _ => .ok { totalFound := 1, matched := [⟨7, 0, 1⟩] } with
    resolve := fun _ _ s => (.error "down", s) }

theorem perform_atomic_withoutRecords :
    let context : SearchContext := ⟨{}, .ofPairs [("Seller", 0)]⟩
    let performed := perform context withoutRecords dogByColor .run { world := ⟨(), {}, []⟩ }
    performed.1.isOk = false ∧ IsExecution context dogByColor performed.2.progress := by
  intro context performed
  have hfailed : performed.1.isOk = false := by decide
  have hexecuted : performed.2.progress.executed = true := by decide
  refine ⟨hfailed, ?_⟩
  obtain ⟨hcases, -⟩ := perform_atomic context withoutRecords dogByColor [] ⟨(), {}, []⟩ .run
  rcases hperformed : performed with ⟨error | answer, final⟩
  · rw [hperformed] at hexecuted
    rcases hcases error final hperformed with ⟨hrefusal, -⟩ | ⟨stage, hmem, _, -, -, -, hnext⟩
    · cases hrefusal
    · cases stage with
      | execution =>
        rw [show final.progress = {} from hnext] at hexecuted
        cases hexecuted
      | resolution => exact hnext
      | excerpts => exact absurd hmem (by decide)
  · rw [hperformed] at hfailed
    cases hfailed

end SearchClient.Search
