import SearchClient.Proofs.ClassMap
import SearchClient.Proofs.Search.FacetRuns
import SearchClient.Proofs.Search.Failure

/-! What an execution asks the daemon: the main request, then those for the facets and for the subtotals, which differ
    from the main one in what they count and in their window only. All of them have the same query. -/

namespace SearchClient
variable {σ E : Type}

/-! ### Facets and subtotals -/

theorem FacetSettings.follows_countAll (settings : FacetSettings σ E) (base : Request) (query : String) :
    ∀ (fields : List String) (counted : Dict FacetCounts) (world : World (σ × List Call)),
      ∃ inquiries, Follows settings.host settings.retry query
        (fields.map fun field => base.forFacet field settings.maxFacets) inquiries
        (settings.recorded.countAll false base query counted fields) world
  | [], counted, world => ⟨[], .of_ok rfl rfl⟩
  | field :: fields, counted, world => by
    obtain ⟨inquiry, hinquiry, -⟩ := FacetRun.follows_count settings base query field world
    exact hinquiry.bind fun counts _ => follows_countAll settings base query fields (counted.insert field counts) _

theorem follows_countSubtotals (host : Host σ E) (retry : RetryPolicy) (base : Request) (query : String) :
    ∀ (classes : List (String × UInt32)) (counted : Dict Nat) (world : World (σ × List Call)),
      ∃ inquiries, Follows host retry query (classes.map fun c => base.forSubtotal c.2) inquiries
        (countSubtotals host.recorded retry base query counted classes) world
  | [], counted, world => ⟨[], .of_ok rfl rfl⟩
  | (name, id) :: classes, counted, world => by
    obtain ⟨inquiry, hinquiry, -⟩ := follows_run host (base.forSubtotal id) query retry "subtotal" world
    exact hinquiry.bind fun response _ => follows_countSubtotals host retry base query classes _ _

/-! ### Executions -/

namespace Search
variable (context : SearchContext) (search : Search)

/-- The fields whose values are asked for, with what is in the cache by then. -/
def fieldsToCount (cache : FacetCache) (main : Request) : List String :=
  if search.cached then cache.uncounted search.query main search.options.facets else search.options.facets

/-- The requests for facets: the main one but for what is grouped, and for the window. -/
def facetRequests (cache : FacetCache) (main : Request) : List Request :=
  (search.fieldsToCount cache main).map fun field =>
    { main with
      groupBy := some field
      groupSort := some Request.groupsByCount
      offset := 0
      limit := min context.config.client.maxFacets main.maxMatches }

/-- The requests for subtotals: the main one but for the class of the matches, and for the window. -/
def subtotalRequests (main : Request) : List Request :=
  if context.config.client.withSubtotals then
    context.classMap.toList.map fun c =>
      { main with
        filters := (main.filters.filter fun f => f.1 != Request.classIdAttribute) ++
          [(Request.classIdAttribute, .equals (Request.classValue c.2))]
        offset := 0
        limit := 1 }
  else []

/-- The requests of an execution, if the main one is given. -/
def plan (cache : FacetCache) (main : Request) : List Request :=
  main :: (facetRequests context search cache main ++ subtotalRequests context main)

variable (host : Host σ E) (main : Request) (world : World (σ × List Call))

theorem follows_executeFacets : ∃ inquiries, Follows host search.retry search.query
    (facetRequests context search world.cache main) inquiries (executeFacets context host.recorded search main)
    world := by
  let settings : FacetSettings σ E := ⟨host, search.retry, context.config.client.maxFacets⟩
  have hexecute : executeFacets context host.recorded search main =
    settings.recorded.countAll search.cached main search.query .empty search.options.facets := rfl
  rw [hexecute, facetRequests, fieldsToCount]
  cases search.cached with
  | false => exact settings.follows_countAll main search.query search.options.facets .empty world
  | true =>
    obtain ⟨computations, hcomputes⟩ :=
      FacetRun.computes_countAll settings main search.query search.options.facets .empty world
    exact ⟨computations.map Prod.snd, hcomputes.follows⟩

theorem follows_executeSubtotals : ∃ inquiries, Follows host search.retry search.query
    (subtotalRequests context main) inquiries (executeSubtotals context host.recorded search main) world := by
  unfold executeSubtotals subtotalRequests
  split
  · exact follows_countSubtotals host search.retry main search.query context.classMap.toList .empty world
  · exact ⟨[], .of_ok rfl rfl⟩

/-- The counts of an execution, behind the reply to the main request. -/
def executeCounts (response : Response) (refs : List EntityRef) : Act σ (Progress E) := do
  let facets ← executeFacets context host search main
  let subtotals ← executeSubtotals context host search main
  return { executed := true, response, refs, facets, subtotals }

theorem follows_executeCounts (response : Response) (refs : List EntityRef) : ∃ inquiries,
    Follows host search.retry search.query
      (facetRequests context search world.cache main ++ subtotalRequests context main) inquiries
      (executeCounts context search host.recorded main response refs) world := by
  obtain ⟨inquiries, hfacets⟩ := follows_executeFacets context search host main world
  refine hfacets.bind fun facets _ => ?_
  obtain ⟨inquiries', hsubtotals⟩ := follows_executeSubtotals context search host main _
  exact ⟨inquiries', hsubtotals.bind_quiet fun subtotals _ => ⟨⟨_, rfl⟩, rfl⟩⟩

theorem reportWarning_eq (response : Response) (world : World σ) :
    ∃ diagnostics, reportWarning response world = (.ok (), world.report diagnostics) := by
  unfold reportWarning
  cases response.warning with
  | none => exact ⟨[], by rw [World.report, List.append_nil]; rfl⟩
  | some warning => exact ⟨[.daemonWarning warning], rfl⟩

theorem follows_execute {built : Reported Request} (h : context.requestFor search.options = .ok built) :
    ∃ inquiries, Follows host search.retry search.query (plan context search world.cache built.value) inquiries
      (execute context host.recorded search) world := by
  let ask := search.retry.run "query" (host.recorded.queryAct built.value search.query)
  let reported := world.report built.diagnostics
  obtain ⟨inquiry, hask, -⟩ := follows_run host built.value search.query search.retry "query" reported
  -- The main query does not touch the cache, so what is in it for the facets was there before the execution.
  have hcache : (after ask reported).cache = world.cache :=
    (search.retry.run_queryAct "query" host.recorded built.value search.query reported).2
  obtain ⟨inquiries, hfollows⟩ : ∃ inquiries,
      Follows host search.retry search.query (plan context search world.cache built.value) inquiries (do
        let response ← ask
        reportWarning response
        let refs ← Act.ofReported (context.classMap.refsOf response.matched)
        executeCounts context search host.recorded built.value response refs) reported := by
    refine hask.bind fun response _ => ?_
    obtain ⟨diagnostics, hwarning⟩ := reportWarning_eq response (after ask reported)
    let refs := context.classMap.refsOf response.matched
    obtain ⟨inquiries, hcounts⟩ := follows_executeCounts context search host built.value
      (((after ask reported).report diagnostics).report refs.diagnostics) response refs.value
    refine ⟨inquiries, ?_⟩
    rw [← hcache]
    exact hcounts.congr ((bind_of_ok hwarning).trans (bind_of_ok rfl)) rfl
  refine ⟨inquiries, hfollows.congr ?_ rfl⟩
  rw [execute_eq]
  exact bind_of_ok (by rw [buildRequest, h]; rfl)

/-- Without a request an execution fails and asks nothing. With one it asks what is planned, in this order, up to the
    first inquiry that fails, and fails as this one does. Subtotals are in the order of the class ids. -/
theorem execute_follows_plan :
    let act := execute context host.recorded search
    (∀ error, context.requestFor search.options = .error error → act world = (.error error, world)) ∧
    (∀ built, context.requestFor search.options = .ok built → ∃ inquiries,
      Follows host search.retry search.query (plan context search world.cache built.value) inquiries act world ∧
      (∀ progress, outcome act world = .ok progress →
        inquiries.map (·.request) = plan context search world.cache built.value) ∧
      ∀ j inquiry error, inquiries[j]? = some inquiry → inquiry.reply = .error error →
        inquiries.length = j + 1 ∧ outcome act world = .error error) ∧
    context.classMap.toList.Pairwise (·.2 < ·.2) := by
  intro act
  refine ⟨fun error herror => execute_of_error herror world, fun built hbuilt => ?_,
    context.classMap.pairwise_toList⟩
  obtain ⟨inquiries, hfollows⟩ := follows_execute context search host world hbuilt
  have hupTo := hfollows.upToFailure
  refine ⟨inquiries, hfollows, fun progress hok => ?_, fun j inquiry error => hupTo.eq_error_of_getElem?⟩
  rw [hok] at hupTo
  exact hupTo.map_request_of_ok

/-- A rejected query for a facet is the last one; the type of the class map is not asked about. -/
theorem execute_follows_plan_rejectingSecond :
    let context : SearchContext := ⟨{ client := { withSubtotals := true } }, .ofPairs [("Seller", 0)]⟩
    let act := execute context FacetRun.rejectingSecond.recorded dogByColor
    let world : World (Nat × List Call) := ⟨(0, []), {}, []⟩
    ∃ built, context.requestFor dogByColor.options = .ok built ∧
      (plan context dogByColor world.cache built.value).length = 3 ∧
      (after act world).host.2.length = 2 ∧
      ∃ inquiries, Follows FacetRun.rejectingSecond dogByColor.retry dogByColor.query
        (plan context dogByColor world.cache built.value) inquiries act world := by
  intro context act world
  obtain ⟨built, hbuilt⟩ : ∃ built, context.requestFor dogByColor.options = .ok built := ⟨_, rfl⟩
  obtain ⟨inquiries, hfollows, -⟩ :=
    (execute_follows_plan context dogByColor FacetRun.rejectingSecond world).2.1 built hbuilt
  refine ⟨built, hbuilt, ?_, by decide +kernel, inquiries, hfollows⟩
  rfl

end Search
end SearchClient
