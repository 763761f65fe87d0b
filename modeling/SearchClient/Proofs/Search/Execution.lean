import SearchClient.Proofs.SortedMap
import SearchClient.Proofs.Search.Action
import SearchClient.Search.Basic

/-! What the stages of a search give when they succeed: an execution the references, facets and subtotals that
    belong to its reply; resolution hits of some of the references; excerpts the same hits. -/

namespace SearchClient
variable {σ E : Type}

/-! ### Counts -/

theorem Act.gives_ofReported {α : Type} (x : Reported α) : Gives (Act.ofReported x : Act σ α) (· = x.value) := by
  intro world a h
  exact (Except.ok.inj h).symm

def FacetSettings.countOne (settings : FacetSettings σ E) (cached : Bool) (base : Request) (query field : String) :
    Act σ FacetCounts :=
  if cached then settings.countCached base query field else settings.count base query field

theorem FacetSettings.countAll_cons (settings : FacetSettings σ E) (cached : Bool) (base : Request) (query : String)
    (counted : Dict FacetCounts) (field : String) (fields : List String) :
    settings.countAll cached base query counted (field :: fields) = (do
      let counts ← settings.countOne cached base query field
      settings.countAll cached base query (counted.insert field counts) fields) := by
  cases cached <;> rfl

theorem FacetSettings.gives_countAll (settings : FacetSettings σ E) (cached : Bool) (base : Request) (query : String) :
    ∀ (fields : List String) (counted : Dict FacetCounts),
      Gives (settings.countAll cached base query counted fields) fun counts =>
        ∀ field, field ∈ counts.keys ↔ field ∈ counted.keys ∨ field ∈ fields
  | [], counted => .pure fun field => by simp
  | field :: fields, counted => by
    rw [settings.countAll_cons]
    refine Gives.any.bind fun counts _ => ?_
    intro world all h name
    rw [settings.gives_countAll cached base query fields _ world all h, SortedMap.mem_keys_insert, List.mem_cons]
    tauto

theorem gives_countSubtotals (host : Host σ E) (retry : RetryPolicy) (base : Request) (query : String) :
    ∀ (classes : List (String × UInt32)) (counted : Dict Nat),
      Gives (countSubtotals host retry base query counted classes) fun counts =>
        ∀ name, name ∈ counts.keys ↔ name ∈ counted.keys ∨ name ∈ classes.map (·.1)
  | [], counted => .pure fun name => by simp
  | (className, id) :: classes, counted => by
    refine Gives.any.bind fun response _ => ?_
    intro world all h name
    rw [gives_countSubtotals host retry base query classes _ world all h, SortedMap.mem_keys_insert, List.map_cons,
      List.mem_cons]
    tauto

/-! ### Hits -/

/-- The hits of references are in their order, and have no excerpts. -/
theorem collectHits_sublist : ∀ (refs : List EntityRef) (found : List (EntityRef × E)),
    ((collectHits refs found).map (·.ref)).Sublist refs ∧ ∀ hit ∈ collectHits refs found, hit.excerpts = .empty
  | [], _ => ⟨.slnil, fun _ h => nomatch h⟩
  | ref :: refs, found => by
    unfold collectHits
    split
    · obtain ⟨hsub, hplain⟩ := collectHits_sublist refs (found.filter fun f => f.1 != ref)
      refine ⟨hsub.cons_cons ref, fun hit hhit => ?_⟩
      rcases List.mem_cons.mp hhit with rfl | hhit
      · rfl
      · exact hplain hit hhit
    · obtain ⟨hsub, hplain⟩ := collectHits_sublist refs found
      exact ⟨hsub.cons ref, hplain⟩

theorem gives_resolveHits (host : Host σ E) (refs : List EntityRef) : Gives (resolveHits host refs) fun hits =>
    (hits.map (·.ref)).Sublist refs ∧ ∀ hit ∈ hits, hit.excerpts = .empty :=
  Gives.any.bind fun found _ => .pure (collectHits_sublist refs found)

theorem gives_excerptHits (host : Host σ E) (retry : RetryPolicy) (options : ExcerptOptions) (index query : String)
    (hits : List (Hit E)) : Gives (excerptHits host retry options index query hits) fun marked =>
      marked.map (·.ref) = hits.map (·.ref) := by
  unfold excerptHits
  split
  · exact .pure rfl
  · refine Gives.any.bind fun excerpts _ => ?_
    split
    · exact .throw _
    · exact .pure (map_excerptEach (fun _ _ => rfl) hits _)

/-! ### Executions -/

namespace Search
variable (context : SearchContext) (host : Host σ E) (search : Search)

def buildRequest : Act σ Request :=
  match context.requestFor search.options with
  | .ok built => Act.ofReported built
  | .error error => throw error

def reportWarning (response : Response) : Act σ Unit :=
  match response.warning with
  | some warning => Act.report (.daemonWarning warning)
  | none => return ()

theorem execute_eq : execute context host search = (do
    let request ← buildRequest context search
    let response ← search.retry.run "query" (host.queryAct request search.query)
    reportWarning response
    let refs ← Act.ofReported (context.classMap.refsOf response.matched)
    let facets ← executeFacets context host search request
    let subtotals ← executeSubtotals context host search request
    return { executed := true, response, refs, facets, subtotals }) := by
  unfold execute buildRequest reportWarning
  cases context.requestFor search.options with
  | error error => rfl
  | ok built =>
    dsimp only
    refine congrArg _ (funext fun request => congrArg _ (funext fun response => ?_))
    cases response.warning with
    | none => simp only [pure_bind]
    | some warning => rfl

/-- What belongs together in the progress of a search that has been executed and no more. -/
structure IsExecution (progress : Progress E) : Prop where
  executed : progress.executed = true
  unresolved : progress.results = none
  unexcerpted : progress.excerpted = false
  request : ∃ request, context.requestFor search.options = .ok request
  refs : progress.refs = (context.classMap.refsOf progress.response.matched).value
  facets : ∀ field, field ∈ progress.facets.keys ↔ field ∈ search.options.facets
  subtotals : ∀ name, name ∈ progress.subtotals.keys ↔
    context.config.client.withSubtotals = true ∧ name ∈ context.classMap.toList.map (·.1)

theorem gives_executeFacets (request : Request) : Gives (executeFacets context host search request) fun facets =>
    ∀ field, field ∈ facets.keys ↔ field ∈ search.options.facets := by
  intro world facets h field
  rw [FacetSettings.gives_countAll _ _ _ _ _ _ world facets h]
  simp [SortedMap.keys, SortedMap.empty]

theorem gives_executeSubtotals (request : Request) : Gives (executeSubtotals context host search request)
    fun subtotals => ∀ name, name ∈ subtotals.keys ↔
      context.config.client.withSubtotals = true ∧ name ∈ context.classMap.toList.map (·.1) := by
  unfold executeSubtotals
  split
  · next hon =>
    intro world subtotals h name
    rw [gives_countSubtotals _ _ _ _ _ _ world subtotals h]
    simp [SortedMap.keys, SortedMap.empty, hon]
  · next hoff => exact .pure fun name => by simp [SortedMap.keys, SortedMap.empty, hoff]

theorem gives_buildRequest : Gives (buildRequest context search : Act σ Request) fun _ =>
    ∃ built, context.requestFor search.options = .ok built := by
  unfold buildRequest
  cases context.requestFor search.options with
  | ok built => exact fun _ _ _ => ⟨built, rfl⟩
  | error error => exact .throw error

theorem gives_execute : Gives (execute context host search) (IsExecution context search) := by
  rw [execute_eq]
  refine (gives_buildRequest context search).bind fun request hrequest => ?_
  refine Gives.any.bind fun response _ => Gives.any.bind fun _ _ => ?_
  refine (Act.gives_ofReported _).bind fun refs hrefs => ?_
  refine (gives_executeFacets context host search request).bind fun facets hfacets => ?_
  refine (gives_executeSubtotals context host search request).bind fun subtotals hsubtotals => ?_
  exact .pure ⟨rfl, rfl, rfl, hrequest, hrefs, hfacets, hsubtotals⟩

end Search
end SearchClient
