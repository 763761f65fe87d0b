import SearchClient.Proofs.Search.Action
import SearchClient.Search.Operation

/-! The stages of a search. Every accessor refuses what it was not configured for, takes the session through the
    stages that it needs and reads its answer off the progress; the two operations that execute anew do the same
    on a session without progress. -/

namespace SearchClient.Search
variable {σ E : Type}

/-- The stages of a search, each of which needs the ones before it. -/
inductive Stage where
  | execution
  | resolution
  | excerpts
deriving DecidableEq

namespace Stage

def isPassed : Stage → Progress E → Bool
  | execution, progress => progress.executed
  | resolution, progress => progress.results.isSome
  | excerpts, progress => progress.excerpted

/-- What a stage makes of the progress before it. -/
def act (context : SearchContext) (host : Host σ E) (search : Search) : Stage → Progress E → Act σ (Progress E)
  | execution, _ => execute context host search
  | resolution, progress => do
    let hits ← resolveHits host progress.refs
    return { progress with results := some hits }
  | excerpts, progress => do
    let hits ← excerptHits host search.retry context.config.excerpting context.config.daemon.indexName search.query
      (progress.results.getD [])
    return { progress with results := some hits, excerpted := true }

end Stage

section Advance
variable (context : SearchContext) (host : Host σ E) (search : Search)

/-- Takes the session through a stage, unless it has been passed. -/
def advance (stage : Stage) : Op σ E Unit := do
  let session ← get
  if stage.isPassed session.progress then return ()
  let progress ← Op.ofAct (stage.act context host search session.progress)
  modify fun session => { session with progress }

/-- Takes the session through stages, up to the first failure. -/
def advanceAll : List Stage → Op σ E Unit
  | [] => return ()
  | stage :: stages => do
    advance context host search stage
    advanceAll stages

end Advance

/-! ### The stages of each operation -/

section Equations
variable {α β : Type} (context : SearchContext) (host : Host σ E) (search : Search)

theorem ofAct_of_ok {act : Act σ α} {session : Session σ E} {a : α} {world : World σ}
    (h : act session.world = (.ok a, world)) : Op.ofAct act session = (.ok a, { session with world }) := by
  rw [Op.ofAct, h]

theorem ofAct_of_error {act : Act σ α} {session : Session σ E} {error : SearchError} {world : World σ}
    (h : act session.world = (.error error, world)) :
    Op.ofAct act session = (.error error, { session with world }) := by
  rw [Op.ofAct, h]

theorem ofAct_bind (act : Act σ α) (next : α → Act σ β) :
    (Op.ofAct (act >>= next) : Op σ E β) = (Op.ofAct act >>= fun a => Op.ofAct (next a)) := by
  funext session
  rcases hact : act session.world with ⟨error | a, world⟩
  · rw [ofAct_of_error (bind_of_error hact), bind_of_error (ofAct_of_error hact)]
  · rw [Op.ofAct, bind_of_ok hact, bind_of_ok (ofAct_of_ok hact)]
    rfl

/-- The progress does not change while an action runs. -/
theorem ofAct_modify (act : Act σ α) (f : Progress E → α → Progress E) (session : Session σ E) :
    (do
      let a ← Op.ofAct act
      modify fun session => { session with progress := f session.progress a }
      return a : Op σ E α) session =
    (do
      let a ← Op.ofAct act
      modify fun session' => { session' with progress := f session.progress a }
      return a : Op σ E α) session := by
  rcases hact : act session.world with ⟨error | a, world⟩
  · rw [bind_of_error (ofAct_of_error hact), bind_of_error (ofAct_of_error hact)]
  · rw [bind_of_ok (ofAct_of_ok hact), bind_of_ok (ofAct_of_ok hact)]
    rfl

theorem ensureRun_eq : ensureRun context host search = (do
    advance context host search .execution
    return (← get).progress) := by
  funext session
  rw [ensureRun, advance, bind_assoc, get_bind, get_bind, Stage.isPassed.eq_def]
  split
  · rfl
  · rw [bind_assoc]
    rfl

theorem ensureRun_of_executed {session : Session σ E} (h : session.progress.executed = true) :
    ensureRun context host search session = (.ok session.progress, session) := by
  unfold ensureRun
  rw [get_bind, if_pos h]
  rfl

theorem ensureResolved_eq : ensureResolved context host search = (do
    advance context host search .execution
    advance context host search .resolution
    return (← get).progress.results.getD []) := by
  rw [ensureResolved, ensureRun_eq, bind_assoc]
  refine congrArg _ (funext fun _ => funext fun session => ?_)
  rw [bind_assoc, get_bind, pure_bind, advance, bind_assoc, get_bind, Stage.isPassed.eq_def, Stage.act.eq_def]
  dsimp only
  rcases session with ⟨⟨executed, response, refs, _ | hits, excerpted, facets, subtotals⟩, world⟩
  · simp only [Option.isSome_none, Bool.false_eq_true, if_false, ofAct_bind, bind_assoc]
    rfl
  · rfl

theorem excerpt_eq : excerpt context host search = (do
    advance context host search .execution
    advance context host search .resolution
    advance context host search .excerpts
    return (← get).progress.results.getD []) := by
  rw [excerpt, ensureResolved_eq, bind_assoc]
  refine congrArg _ (funext fun _ => ?_)
  rw [bind_assoc]
  refine congrArg _ (funext fun _ => funext fun session => ?_)
  rw [bind_assoc, get_bind, pure_bind, get_bind, advance, bind_assoc, get_bind, Stage.isPassed.eq_def,
    Stage.act.eq_def]
  dsimp only
  split
  · rfl
  · rw [ofAct_bind, bind_assoc, bind_assoc]
    exact ofAct_modify _ (fun progress hits => { progress with results := some hits, excerpted := true }) session

end Equations

namespace Accessor

def stages : Accessor → List Stage
  | .results => [.execution, .resolution]
  | .excerpt => [.execution, .resolution, .excerpts]
  | _ => [.execution]

/-- Why an accessor refuses to do anything. -/
def refusal? (context : SearchContext) (search : Search) : Accessor → Option SearchError
  | .facets => if search.options.facets.isEmpty then some .noFacetField else none
  | .facet field => if search.options.facets.contains field then none else some (.facetNotRequested field)
  | .subtotals => if context.config.client.withSubtotals then none else some .subtotalsDisabled
  | _ => none

/-- The answer of an accessor, once its stages have been passed. -/
def answer (context : SearchContext) (search : Search) (progress : Progress E) :
    Accessor → Except SearchError (Answer E)
  | .results | .excerpt => .ok (.hits (progress.results.getD []))
  | .entityRefs => .ok (.refs progress.refs)
  | .response => .ok (.response progress.response)
  | .facets => .ok (.facets progress.facets)
  | .facet field =>
    match progress.facets.get? field with
    | some counts => .ok (.facet counts)
    | none => .error (.noFacetCounts field)
  | .subtotals => .ok (.subtotals progress.subtotals)
  | .totalEntries => .ok (.count (min progress.response.totalFound context.config.daemon.maxMatches))
  | .time => .ok (.time progress.response.time)
  | .pageCount => .ok (.count
      (pagesFor (min progress.response.totalFound context.config.daemon.maxMatches) search.options.perPage))
  | .nextPage => .ok (.page
      (if search.options.page <
          pagesFor (min progress.response.totalFound context.config.daemon.maxMatches) search.options.perPage
        then some (search.options.page + 1) else none))

end Accessor

section Staged
variable (context : SearchContext) (host : Host σ E) (search : Search)

def staged (accessor : Accessor) : Op σ E (Answer E) :=
  match accessor.refusal? context search with
  | some error => throw error
  | none => do
    advanceAll context host search accessor.stages
    fun session => (accessor.answer context search session.progress, session)

theorem access_eq_staged (accessor : Accessor) :
    access context host search accessor = staged context host search accessor := by
  cases accessor with
  | results | entityRefs | response | totalEntries | time | pageCount | nextPage | excerpt =>
    simp only [access, results, entityRefs, response, totalEntries, time, pageCount, nextPage?, excerpt_eq,
      ensureResolved_eq, ensureRun_eq, staged, Accessor.refusal?, Accessor.stages, advanceAll, bind_assoc, pure_bind]
    rfl
  | facets =>
    simp only [access, facets, ensureRun_eq, staged, Accessor.refusal?, Accessor.stages, advanceAll]
    cases search.options.facets.isEmpty with
    | true => rfl
    | false =>
      simp only [Bool.false_eq_true, if_false, bind_assoc, pure_bind]
      rfl
  | facet field =>
    simp only [access, facet, ensureRun_eq, staged, Accessor.refusal?, Accessor.stages, advanceAll]
    cases search.options.facets.contains field with
    | true =>
      simp only [Bool.not_true, Bool.false_eq_true, if_true, if_false, bind_assoc, pure_bind]
      refine congrArg _ (funext fun _ => funext fun session => ?_)
      rw [get_bind, Accessor.answer]
      cases session.progress.facets.get? field <;> rfl
    | false => rfl
  | subtotals =>
    simp only [access, subtotals, ensureRun_eq, staged, Accessor.refusal?, Accessor.stages, advanceAll]
    cases context.config.client.withSubtotals with
    | true =>
      simp only [Bool.not_true, Bool.false_eq_true, if_true, if_false, bind_assoc, pure_bind]
      rfl
    | false => rfl

end Staged

namespace Operation

def accessor : Operation → Accessor
  | .run => .results
  | .runIds => .entityRefs
  | .access accessor => accessor

/-- The session on which an operation works: to execute anew is to forget the progress first. -/
def entry : Operation → Session σ E → Session σ E
  | .access _, session => session
  | _, session => { world := session.world }

end Operation

theorem perform_eq_access (context : SearchContext) (host : Host σ E) (search : Search) (operation : Operation)
    (session : Session σ E) : perform context host search operation session =
      access context host search operation.accessor (operation.entry session) := by
  cases operation <;> rfl

end SearchClient.Search
