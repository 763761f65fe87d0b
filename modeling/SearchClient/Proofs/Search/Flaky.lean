import SearchClient.Proofs.Search.Session
import SearchClient.Proofs.Search.Similar

/-! Transient failures go unnoticed as long as no call fails more often than it is tried again. A daemon without a
    state, whose replies depend on the call only, is compared with one that fails transiently on the way to the same
    replies; the records are those of one host. -/

namespace SearchClient
variable {σ τ E α : Type}

/-! ### Daemons beside a host -/

/-- A connection to the daemon by itself. -/
structure Daemon (τ : Type) where
  query : Request → String → τ → Except SearchError Response × τ
  buildExcerpts : ExcerptCall → τ → Except SearchError (List String) × τ

/-- The host with its own records, and another connection to the daemon. -/
def Host.withDaemon (host : Host σ E) (daemon : Daemon τ) : Host (σ × τ) E where
  query request text s :=
    let (reply, state) := daemon.query request text s.2
    (reply, s.1, state)
  buildExcerpts call s :=
    let (reply, state) := daemon.buildExcerpts call s.2
    (reply, s.1, state)
  resolveCached className keys s :=
    let (found, state) := host.resolveCached className keys s.1
    (found, state, s.2)
  resolve className keys s :=
    let (found, state) := host.resolve className keys s.1
    (found, state, s.2)
  field? := host.field?

def onDaemon (call : τ → Except SearchError α × τ) : Act (σ × τ) α :=
  Act.onHost fun s => ((call s.2).1, s.1, (call s.2).2)

theorem find_withDaemon (host : Host σ E) (daemon : Daemon τ) (className : String) (keys : List Nat) (s : σ × τ) :
    (host.withDaemon daemon).find className keys s =
      ((host.find className keys s.1).1, (host.find className keys s.1).2, s.2) := by
  rcases hcached : host.resolveCached className keys s.1 with ⟨_ | found, state⟩ <;>
    simp [Host.find, Host.withDaemon, hcached]

/-! ### Calls that settle -/

/-- From a state, a call gives a reply after at most `left` transient failures, and leaves the daemon ready. A reply
    that is a transient failure itself comes when nothing is left. -/
inductive Settles (Ready : τ → Prop) (call : τ → Except SearchError α × τ) (reply : Except SearchError α) :
    Nat → τ → Prop
  | now {left : Nat} {t : τ} : (call t).1 = reply → Ready (call t).2 → isFinal reply = true ∨ left = 0 →
      Settles Ready call reply left t
  | later {left : Nat} {t : τ} {error : SearchError} : (call t).1 = .error error → error.isTransient = true →
      Settles Ready call reply left (call t).2 → Settles Ready call reply (left + 1) t

namespace Settles
variable {Ready : τ → Prop} {call : τ → Except SearchError α × τ} {reply : Except SearchError α} {left : Nat} {t : τ}

theorem attempt (h : Settles Ready call reply left t) (policy : RetryPolicy) (name : String) :
    ∀ world : World (σ × τ), world.host.2 = t →
      outcome (policy.attempt name (onDaemon call) left) world = reply ∧
      (after (policy.attempt name (onDaemon call) left) world).host.1 = world.host.1 ∧
      Ready (after (policy.attempt name (onDaemon call) left) world).host.2 ∧
      (after (policy.attempt name (onDaemon call) left) world).cache = world.cache := by
  unfold outcome after
  induction h with
  | @now left t hreply hready hlast =>
    rintro world rfl
    have hcall : outcome (onDaemon call) world = reply := hreply
    rcases RetryPolicy.final_or_transient (onDaemon call) world with hfinal | ⟨error, herror, htransient⟩
    · rw [RetryPolicy.attempt_of_final left hfinal]
      exact ⟨hreply, rfl, hready, rfl⟩
    -- The reply is a transient failure itself, so this is the attempt after which the policy gives up.
    · obtain rfl : reply = .error error := hcall.symm.trans herror
      obtain rfl := hlast.resolve_left (by simp [isFinal, htransient])
      rw [RetryPolicy.attempt_zero_of_transient herror htransient]
      exact ⟨rfl, rfl, hready, rfl⟩
  | later herror htransient _ ih =>
    rintro world rfl
    rw [RetryPolicy.attempt_succ_of_transient (show outcome (onDaemon call) world = _ from herror) htransient]
    exact ih _ rfl

theorem of_unit (call : Unit → Except SearchError α × Unit) :
    ∀ left, Settles (fun _ => True) call (call ()).1 left ()
  | 0 => .now rfl trivial (.inr rfl)
  | left + 1 => by
    cases hreply : (call ()).1 with
    | ok value => exact .now hreply trivial (.inl rfl)
    | error error =>
      cases htransient : error.isTransient with
      | false => exact .now hreply trivial (.inl (by rw [isFinal, htransient]; rfl))
      | true => exact .later hreply htransient (hreply ▸ of_unit call left)

end Settles

/-- A daemon that is ready settles on the replies of another one, which has no state. -/
structure Daemon.IsFlaky (flaky : Daemon τ) (steady : Daemon Unit) (maxRetries : Nat) (Ready : τ → Prop) :
    Prop where
  query : ∀ request text t, Ready t →
    Settles Ready (flaky.query request text) (steady.query request text ()).1 maxRetries t
  buildExcerpts : ∀ call t, Ready t →
    Settles Ready (flaky.buildExcerpts call) (steady.buildExcerpts call ()).1 maxRetries t

/-! ### Scheduled failures -/

/-- A reply after the failures at the head of a schedule, one for each attempt. A reply that is a transient failure
    itself has no others in front. -/
def delayed (reply : Except SearchError α) : List (List String) → Except SearchError α × List (List String)
  | [] => (reply, [])
  | [] :: schedule => (reply, schedule)
  | (reason :: reasons) :: schedule =>
    if isFinal reply then (.error (.transient reason), reasons :: schedule) else (reply, schedule)

/-- The daemon that fails as scheduled in front of each reply of a steady one. -/
def Daemon.delayed (steady : Daemon Unit) : Daemon (List (List String)) where
  query request text := SearchClient.delayed (steady.query request text ()).1
  buildExcerpts call := SearchClient.delayed (steady.buildExcerpts call ()).1

def IsSchedule (maxRetries : Nat) (schedule : List (List String)) : Prop :=
  ∀ reasons ∈ schedule, reasons.length ≤ maxRetries

section Schedule
variable {reply : Except SearchError α} {maxRetries : Nat}

theorem IsSchedule.tail {reasons : List String} {schedule : List (List String)}
    (h : IsSchedule maxRetries (reasons :: schedule)) : IsSchedule maxRetries schedule :=
  fun reasons' hmem => h reasons' (List.mem_cons_of_mem _ hmem)

theorem settles_of_transient (hfinal : isFinal reply = false) (left : Nat) :
    ∀ schedule, IsSchedule maxRetries schedule →
      Settles (IsSchedule maxRetries) (delayed reply) reply left schedule := by
  have hreply : ∀ schedule, (delayed reply schedule).1 = reply := by
    rintro (_ | ⟨_ | ⟨reason, reasons⟩, schedule⟩)
    · rfl
    · rfl
    · rw [delayed, hfinal]
      rfl
  have hrest : ∀ schedule, IsSchedule maxRetries schedule → IsSchedule maxRetries (delayed reply schedule).2 := by
    rintro (_ | ⟨_ | ⟨reason, reasons⟩, schedule⟩) h
    · exact h
    · exact h.tail
    · rw [delayed, hfinal]
      exact h.tail
  induction left with
  | zero => exact fun schedule h => .now (hreply schedule) (hrest schedule h) (.inr rfl)
  | succ left ih =>
    intro schedule h
    cases reply with
    | ok value => cases hfinal
    | error error =>
      have htransient : error.isTransient = true := by simpa [isFinal] using hfinal
      exact .later (hreply schedule) htransient (ih _ (hrest schedule h))

theorem settles_of_final (hfinal : isFinal reply = true) {schedule : List (List String)}
    (h : IsSchedule maxRetries schedule) : ∀ (reasons : List String) (left : Nat), reasons.length ≤ left →
      Settles (IsSchedule maxRetries) (delayed reply) reply left (reasons :: schedule)
  | [], _, _ => .now rfl h (.inl hfinal)
  | reason :: reasons, left + 1, hle => by
    have hcall : delayed reply ((reason :: reasons) :: schedule) = (.error (.transient reason), reasons :: schedule) :=
      if_pos hfinal
    refine .later (congrArg Prod.fst hcall) rfl ?_
    rw [hcall]
    exact settles_of_final hfinal h reasons left (Nat.le_of_succ_le_succ hle)

theorem settles_delayed (reply : Except SearchError α) {schedule : List (List String)}
    (h : IsSchedule maxRetries schedule) :
    Settles (IsSchedule maxRetries) (delayed reply) reply maxRetries schedule := by
  cases hfinal : isFinal reply with
  | false => exact settles_of_transient hfinal maxRetries schedule h
  | true =>
    cases schedule with
    | nil => exact .now rfl h (.inl hfinal)
    | cons reasons schedule => exact settles_of_final hfinal h.tail reasons _ (h reasons (List.mem_cons_self ..))

end Schedule

/-- Every schedule makes a flaky daemon, as long as it has no more failures in a row than a call is tried again. -/
theorem isFlaky_delayed (steady : Daemon Unit) (maxRetries : Nat) :
    steady.delayed.IsFlaky steady maxRetries (IsSchedule maxRetries) where
  query _ _ _ h := settles_delayed _ h
  buildExcerpts _ _ h := settles_delayed _ h

def Beside (Ready : τ → Prop) (s : σ × Unit) (s' : σ × τ) : Prop := s.1 = s'.1 ∧ Ready s'.2

theorem similar_run {Ready : τ → Prop} {policy : RetryPolicy} {steady : Unit → Except SearchError α × Unit}
    {flaky : τ → Except SearchError α × τ}
    (h : ∀ t, Ready t → Settles Ready flaky (steady ()).1 policy.maxRetries t) (name : String) :
    Similar (World.Related (Beside Ready : σ × Unit → σ × τ → Prop)) (policy.run name (onDaemon steady))
      (policy.run name (onDaemon flaky)) := by
  rintro world world' ⟨⟨hrecords, hready⟩, hcache⟩
  obtain ⟨hreply, hhost, -, hkept⟩ := (Settles.of_unit steady policy.maxRetries).attempt policy name world rfl
  obtain ⟨hreply', hhost', hready', hkept'⟩ := (h _ hready).attempt policy name world' rfl
  exact ⟨hreply.trans hreply'.symm, ⟨(hhost.trans hrecords).trans hhost'.symm, hready'⟩,
    (hkept.trans hcache).trans hkept'.symm⟩

namespace Search
variable {search : Search}

theorem Stage.similarCalls_flaky (host : Host σ E) {steady : Daemon Unit} {flaky : Daemon τ} {Ready : τ → Prop}
    {retry : RetryPolicy} (h : flaky.IsFlaky steady retry.maxRetries Ready) (stage : Stage) :
    stage.SimilarCalls (Beside Ready) retry (host.withDaemon steady) (host.withDaemon flaky) := by
  cases stage with
  | execution => exact fun name request text => similar_run (h.query request text) name
  | resolution =>
    refine .of_find ?_
    rintro className keys ⟨s, _⟩ ⟨_, t⟩ ⟨rfl, hready⟩
    rw [find_withDaemon, find_withDaemon]
    exact ⟨rfl, rfl, hready⟩
  | excerpts => exact ⟨rfl, fun name call => similar_run (h.buildExcerpts call) name⟩

/-- Operations one after another give the same answers and failures, and lead to the same progress, whether the daemon
    replies at once or fails transiently before. -/
theorem performAll_flaky (context : SearchContext) (host : Host σ E) (search : Search) {steady : Daemon Unit}
    {flaky : Daemon τ} {Ready : τ → Prop} (h : flaky.IsFlaky steady search.retry.maxRetries Ready)
    (operations : List Operation) (progress : Progress E) (cache : FacetCache) (diagnostics : List Diagnostic)
    (s : σ) (t : τ) (ht : Ready t) :
    let performed := performAll context (host.withDaemon steady) search operations
      ⟨progress, ⟨(s, ()), cache, diagnostics⟩⟩
    let performed' := performAll context (host.withDaemon flaky) search operations
      ⟨progress, ⟨(s, t), cache, diagnostics⟩⟩
    performed'.1 = performed.1 ∧ performed'.2.progress = performed.2.progress ∧
      performed'.2.world.host.1 = performed.2.world.host.1 ∧ performed'.2.world.cache = performed.2.world.cache := by
  intro performed performed'
  obtain ⟨hanswers, hprogress, ⟨hrecords, -⟩, hcache⟩ := similar_performAll context
    (Stage.similarCalls_flaky host h) operations ⟨progress, ⟨(s, ()), cache, diagnostics⟩⟩
    ⟨progress, ⟨(s, t), cache, diagnostics⟩⟩ ⟨rfl, ⟨rfl, ht⟩, rfl⟩
  exact ⟨hanswers.symm, hprogress.symm, hrecords.symm, hcache.symm⟩

def oneMatch : Daemon Unit where
  query _ _ _ := (.ok { totalFound := 1, matched := [⟨7, 0, 1⟩], groups := [⟨"red", 10⟩] }, ())
  buildExcerpts call _ := (.ok call.texts, ())

/-- Two failures before the main query, none before the facet, one before the excerpts. -/
def threeFailures : List (List String) := [["busy", "busy"], [], ["gone"]]

theorem performAll_flaky_threeFailures :
    let context : SearchContext := ⟨{}, .ofPairs [("Seller", 0)]⟩
    let performed := performAll context (redSeller.withDaemon oneMatch) dogByColor [.run, .access .excerpt]
      { world := ⟨((), ()), {}, []⟩ }
    let performed' := performAll context (redSeller.withDaemon oneMatch.delayed) dogByColor [.run, .access .excerpt]
      { world := ⟨((), threeFailures), {}, []⟩ }
    IsSchedule dogByColor.retry.maxRetries threeFailures ∧
    performed.1.map Except.isOk = [true, true] ∧ performed'.2.world.host.2 = [] ∧
    performed'.1 = performed.1 ∧ performed'.2.progress = performed.2.progress := by
  intro context performed performed'
  have hschedule : IsSchedule dogByColor.retry.maxRetries threeFailures := by
    unfold IsSchedule
    decide
  obtain ⟨hanswers, hprogress, -⟩ := performAll_flaky context redSeller dogByColor
    (isFlaky_delayed oneMatch dogByColor.retry.maxRetries) [.run, .access .excerpt] {} {} [] () threeFailures hschedule
  exact ⟨hschedule, by decide, by decide, hanswers, hprogress⟩

end Search
end SearchClient
