import SearchClient.Proofs.Search.Execution
import SearchClient.Proofs.Search.Resolution
import SearchClient.Proofs.Search.Stage

/-! Actions that end alike on two hosts. A search reaches a host through calls only, so its stages end alike as soon
    as its calls do, whatever else the hosts do. -/

namespace SearchClient
variable {σ τ E : Type} {S : σ → τ → Prop}

/-- The hosts of two worlds are in related states, and the facet counts that searches share are the same. -/
def World.Related (S : σ → τ → Prop) (world : World σ) (world' : World τ) : Prop :=
  S world.host world'.host ∧ world.cache = world'.cache

/-- From related states two actions have the same outcome, and leave related states behind. -/
def Similar {ε ω ω' α : Type} (R : ω → ω' → Prop) (act : ExceptT ε (StateM ω) α)
    (act' : ExceptT ε (StateM ω') α) : Prop :=
  ∀ w w', R w w' → outcome act w = outcome act' w' ∧ R (after act w) (after act' w')

/-! ### Sequences -/

namespace Similar

section Sequence
variable {ε ω ω' α β : Type} {R : ω → ω' → Prop} {act : ExceptT ε (StateM ω) α}
  {act' : ExceptT ε (StateM ω') α} {next : α → ExceptT ε (StateM ω) β} {next' : α → ExceptT ε (StateM ω') β}

theorem pure (a : α) : Similar R (Pure.pure a : ExceptT ε (StateM ω) α) (Pure.pure a) := fun _ _ h => ⟨rfl, h⟩

theorem throw (e : ε) : Similar R (MonadExcept.throw e : ExceptT ε (StateM ω) α) (MonadExcept.throw e) :=
  fun _ _ h => ⟨rfl, h⟩

theorem bind (h : Similar R act act') (hnext : ∀ a, Similar R (next a) (next' a)) :
    Similar R (act >>= next) (act' >>= next') := by
  intro w w' hw
  obtain ⟨houtcome, hafter⟩ := h w w' hw
  cases hact : outcome act w with
  | error e =>
    have hact' := houtcome.symm.trans hact
    rw [outcome_bind_of_error hact, outcome_bind_of_error hact', after_bind_of_error hact, after_bind_of_error hact']
    exact ⟨rfl, hafter⟩
  | ok a =>
    have hact' := houtcome.symm.trans hact
    rw [outcome_bind_of_ok hact, outcome_bind_of_ok hact', after_bind_of_ok hact, after_bind_of_ok hact']
    exact hnext a _ _ hafter

theorem get_bind {next : ω → ExceptT ε (StateM ω) α} {next' : ω' → ExceptT ε (StateM ω') α}
    (h : ∀ w w', R w w' → Similar R (next w) (next' w')) : Similar R (get >>= next) (get >>= next') :=
  fun w w' hw => h w w' hw w w' hw

theorem modify {f : ω → ω} {f' : ω' → ω'} (h : ∀ w w', R w w' → R (f w) (f' w')) :
    Similar R (modify f : ExceptT ε (StateM ω) PUnit) (modify f') := fun w w' hw => ⟨rfl, h w w' hw⟩

end Sequence

section Acts
variable {α : Type}

theorem ofReported (x : Reported α) : Similar (World.Related S) (Act.ofReported x) (Act.ofReported x) :=
  fun _ _ h => ⟨rfl, h⟩

theorem onHost {step : σ → Except SearchError α × σ} {step' : τ → Except SearchError α × τ}
    (h : ∀ s s', S s s' → (step s).1 = (step' s').1 ∧ S (step s).2 (step' s').2) :
    Similar (World.Related S) (Act.onHost step) (Act.onHost step') := fun _ _ hworld =>
  ⟨(h _ _ hworld.1).1, (h _ _ hworld.1).2, hworld.2⟩

/-- Calls that end alike do so when they are tried again, too. -/
theorem attempt {call : Act σ α} {call' : Act τ α} (h : Similar (World.Related S) call call') (policy : RetryPolicy)
    (name : String) : ∀ left,
      Similar (World.Related S) (policy.attempt name call left) (policy.attempt name call' left)
  | left, world, world', hworld => by
    obtain ⟨houtcome, hafter⟩ := h world world' hworld
    rcases RetryPolicy.final_or_transient call world with hfinal | ⟨error, herror, htransient⟩
    · have hfinal' := houtcome ▸ hfinal
      rw [outcome, outcome, after, after, RetryPolicy.attempt_of_final left hfinal,
        RetryPolicy.attempt_of_final left hfinal']
      exact ⟨houtcome, hafter⟩
    · have herror' := houtcome.symm.trans herror
      cases left with
      | zero =>
        rw [outcome, outcome, after, after, RetryPolicy.attempt_zero_of_transient herror htransient,
          RetryPolicy.attempt_zero_of_transient herror' htransient]
        exact ⟨rfl, hafter⟩
      | succ left =>
        rw [outcome, outcome, after, after, RetryPolicy.attempt_succ_of_transient herror htransient,
          RetryPolicy.attempt_succ_of_transient herror' htransient]
        exact attempt h policy name left _ _ hafter

theorem run {call : Act σ α} {call' : Act τ α} (h : Similar (World.Related S) call call') (policy : RetryPolicy)
    (name : String) : Similar (World.Related S) (policy.run name call) (policy.run name call') :=
  h.attempt policy name policy.maxRetries

end Acts
end Similar

/-! ### Counts -/

section Counts
variable {host : Host σ E} {host' : Host τ E} {retry : RetryPolicy}

/-- Queries end alike on two hosts, when they are tried again. -/
def SimilarQueries (S : σ → τ → Prop) (retry : RetryPolicy) (host : Host σ E) (host' : Host τ E) : Prop :=
  ∀ name request text, Similar (World.Related S) (retry.run name (host.queryAct request text))
    (retry.run name (host'.queryAct request text))

theorem FacetSettings.similar_countOne (h : SimilarQueries S retry host host') (maxFacets : Nat) (cached : Bool)
    (base : Request) (query field : String) :
    Similar (World.Related S) (FacetSettings.countOne ⟨host, retry, maxFacets⟩ cached base query field)
      (FacetSettings.countOne ⟨host', retry, maxFacets⟩ cached base query field) := by
  have hcount : Similar (World.Related S) (FacetSettings.count ⟨host, retry, maxFacets⟩ base query field)
      (FacetSettings.count ⟨host', retry, maxFacets⟩ base query field) := (h _ _ _).bind fun response => .pure _
  cases cached with
  | false => exact hcount
  | true =>
    refine .get_bind fun world world' hworld => ?_
    rw [hworld.2]
    cases world'.cache.get? _ with
    | some counts => exact .pure counts
    | none =>
      refine hcount.bind fun counts => Similar.bind (.modify fun world world' hworld => ?_) fun _ => .pure counts
      exact ⟨hworld.1, congrArg (FacetCache.insert · ⟨query, base, field⟩ counts) hworld.2⟩

theorem FacetSettings.similar_countAll (h : SimilarQueries S retry host host') (maxFacets : Nat) (cached : Bool)
    (base : Request) (query : String) : ∀ (fields : List String) (counted : Dict FacetCounts),
      Similar (World.Related S) (FacetSettings.countAll ⟨host, retry, maxFacets⟩ cached base query counted fields)
        (FacetSettings.countAll ⟨host', retry, maxFacets⟩ cached base query counted fields)
  | [], counted => .pure counted
  | field :: fields, counted => by
    rw [FacetSettings.countAll_cons, FacetSettings.countAll_cons]
    exact (FacetSettings.similar_countOne h maxFacets cached base query field).bind fun counts =>
      FacetSettings.similar_countAll h maxFacets cached base query fields _

theorem similar_countSubtotals (h : SimilarQueries S retry host host') (base : Request) (query : String) :
    ∀ (classes : List (String × UInt32)) (counted : Dict Nat),
      Similar (World.Related S) (countSubtotals host retry base query counted classes)
        (countSubtotals host' retry base query counted classes)
  | [], counted => .pure counted
  | (_, _) :: classes, _ => (h _ _ _).bind fun _ => similar_countSubtotals h base query classes _

end Counts

/-! ### Hits -/

section Hits
variable {host : Host σ E} {host' : Host τ E}

def SimilarLookups (S : σ → τ → Prop) (host : Host σ E) (host' : Host τ E) : Prop :=
  ∀ className keys, Similar (World.Related S) (host.lookup className keys) (host'.lookup className keys)

theorem SimilarLookups.of_find (h : ∀ className keys s s', S s s' →
    (host.find className keys s).1 = (host'.find className keys s').1 ∧
      S (host.find className keys s).2 (host'.find className keys s').2) : SimilarLookups S host host' := by
  intro className keys
  rw [Host.lookup_eq, Host.lookup_eq]
  refine .onHost fun s s' hs => ?_
  obtain ⟨hfound, hafter⟩ := h className keys s s' hs
  exact ⟨congrArg (checkLookup className keys) hfound, hafter⟩

theorem similar_lookupAll (h : SimilarLookups S host host') :
    ∀ (batches : List (String × List Nat)) (found : List (EntityRef × E)),
      Similar (World.Related S) (lookupAll host found batches) (lookupAll host' found batches)
  | [], found => .pure found
  | (_, _) :: batches, _ => (h _ _).bind fun _ => similar_lookupAll h batches _

theorem similar_resolveHits (h : SimilarLookups S host host') (refs : List EntityRef) :
    Similar (World.Related S) (resolveHits host refs) (resolveHits host' refs) :=
  (similar_lookupAll h (batches refs) []).bind fun _ => .pure _

/-- Records have the same fields on two hosts, and excerpts of them end alike, when they are tried again. -/
def SimilarExcerpts (S : σ → τ → Prop) (retry : RetryPolicy) (host : Host σ E) (host' : Host τ E) : Prop :=
  host.field? = host'.field? ∧ ∀ name call,
    Similar (World.Related S) (retry.run name (Act.onHost (host.buildExcerpts call)))
      (retry.run name (Act.onHost (host'.buildExcerpts call)))

theorem similar_excerptHits {retry : RetryPolicy} (h : SimilarExcerpts S retry host host') (options : ExcerptOptions)
    (index query : String) (hits : List (Hit E)) :
    Similar (World.Related S) (excerptHits host retry options index query hits)
      (excerptHits host' retry options index query hits) := by
  obtain ⟨hfield, hcall⟩ := h
  have hselections : selections host = selections host' := by
    funext groups hit
    unfold selections selectField
    rw [hfield]
  unfold excerptHits
  rw [hselections]
  split
  · exact .pure hits
  · refine (hcall _ _).bind fun excerpts => ?_
    split
    · exact .throw _
    · exact .pure _

end Hits

/-! ### Stages -/

namespace Search
variable {context : SearchContext} {search : Search} {host : Host σ E} {host' : Host τ E}

theorem similar_execute (h : SimilarQueries S search.retry host host') :
    Similar (World.Related S) (execute context host search) (execute context host' search) := by
  have hrequest : Similar (World.Related S) (buildRequest context search) (buildRequest context search) := by
    unfold buildRequest
    cases context.requestFor search.options with
    | ok request => exact .ofReported request
    | error error => exact .throw error
  have hwarning : ∀ response, Similar (World.Related S) (reportWarning response) (reportWarning response) := by
    intro response
    unfold reportWarning
    cases response.warning with
    | some warning => exact .ofReported _
    | none => exact .pure ()
  have hsubtotals : ∀ request, Similar (World.Related S) (executeSubtotals context host search request)
      (executeSubtotals context host' search request) := by
    intro request
    unfold executeSubtotals
    split
    · exact similar_countSubtotals h request search.query _ _
    · exact .pure _
  rw [execute_eq, execute_eq]
  refine hrequest.bind fun request => (h _ _ _).bind fun response => (hwarning response).bind fun _ => ?_
  refine (Similar.ofReported _).bind fun refs => ?_
  refine (FacetSettings.similar_countAll h _ search.cached request search.query _ _).bind fun facets => ?_
  exact (hsubtotals request).bind fun subtotals => .pure _

/-- The calls of a stage end alike on two hosts. -/
def Stage.SimilarCalls (S : σ → τ → Prop) (retry : RetryPolicy) (host : Host σ E) (host' : Host τ E) :
    Stage → Prop
  | execution => SimilarQueries S retry host host'
  | resolution => SimilarLookups S host host'
  | excerpts => SimilarExcerpts S retry host host'

theorem Stage.similar_act {stage : Stage} (h : stage.SimilarCalls S search.retry host host')
    (progress : Progress E) :
    Similar (World.Related S) (stage.act context host search progress) (stage.act context host' search progress) := by
  cases stage with
  | execution => exact similar_execute h
  | resolution => exact (similar_resolveHits h progress.refs).bind fun hits => .pure _
  | excerpts => exact (similar_excerptHits h _ _ _ _).bind fun hits => .pure _

/-! ### Operations -/

def Session.Related (S : σ → τ → Prop) (session : Session σ E) (session' : Session τ E) : Prop :=
  session.progress = session'.progress ∧ session.world.Related S session'.world

theorem similar_ofAct {α : Type} {act : Act σ α} {act' : Act τ α} (h : Similar (World.Related S) act act') :
    Similar (Session.Related S) (Op.ofAct act : Op σ E α) (Op.ofAct act') := by
  intro session session' hsession
  obtain ⟨houtcome, hafter⟩ := h _ _ hsession.2
  exact ⟨houtcome, hsession.1, hafter⟩

section Operations
variable (h : ∀ stage : Stage, stage.SimilarCalls S search.retry host host')
include h

theorem similar_advance (stage : Stage) :
    Similar (Session.Related S) (advance context host search stage) (advance context host' search stage) := by
  refine .get_bind fun session session' hsession => ?_
  rw [hsession.1]
  split
  · exact .pure ()
  · refine (similar_ofAct (Stage.similar_act (h stage) session'.progress)).bind fun progress => ?_
    exact .modify fun _ _ hsession => ⟨rfl, hsession.2⟩

theorem similar_advanceAll : ∀ stages : List Stage,
    Similar (Session.Related S) (advanceAll context host search stages) (advanceAll context host' search stages)
  | [] => .pure ()
  | stage :: stages => (similar_advance h stage).bind fun _ => similar_advanceAll stages

theorem similar_access (accessor : Accessor) :
    Similar (Session.Related S) (access context host search accessor) (access context host' search accessor) := by
  rw [access_eq_staged, access_eq_staged, staged, staged]
  cases accessor.refusal? context search with
  | some error => exact .throw error
  | none =>
    refine (similar_advanceAll h accessor.stages).bind fun _ session session' hsession => ⟨?_, hsession⟩
    exact congrArg (fun progress => accessor.answer context search progress) hsession.1

theorem similar_perform (operation : Operation) :
    Similar (Session.Related S) (perform context host search operation) (perform context host' search operation) := by
  intro session session' hsession
  have hentry : (operation.entry session).Related S (operation.entry session') := by
    cases operation with
    | access => exact hsession
    | run | runIds => exact ⟨rfl, hsession.2⟩
  unfold outcome after
  rw [perform_eq_access, perform_eq_access]
  exact similar_access h operation.accessor _ _ hentry

variable (context) in
/-- On hosts whose calls end alike, operations give the same answers one after another. -/
theorem similar_performAll : ∀ (operations : List Operation) (session : Session σ E) (session' : Session τ E),
    session.Related S session' →
      (performAll context host search operations session).1 =
          (performAll context host' search operations session').1 ∧
        (performAll context host search operations session).2.Related S
          (performAll context host' search operations session').2
  | [], _, _, hsession => ⟨rfl, hsession⟩
  | operation :: operations, session, session', hsession => by
    obtain ⟨hanswer, hnext⟩ := similar_perform h operation session session' hsession
    obtain ⟨hanswers, hlast⟩ := similar_performAll operations _ _ hnext
    exact ⟨congr (congrArg List.cons hanswer) hanswers, hlast⟩

end Operations

end Search
end SearchClient
