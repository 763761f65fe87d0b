import Mathlib.Logic.Function.Iterate
import SearchClient.Search.Facet

/-! How actions run: in sequence up to the first failure, and again after transient failures. An action is seen
    through its outcome and through what it leaves behind. -/

namespace SearchClient

/-! ### Sequences -/

section Sequence
variable {ε ω α β : Type}

theorem toOption_eq_some_iff {x : Except ε α} {a : α} : x.toOption = some a ↔ x = .ok a := by
  cases x <;> simp [Except.toOption]

/-- The value or the failure that an action ends with. -/
def outcome (act : ExceptT ε (StateM ω) α) (w : ω) : Except ε α := (act w).1

/-- The world that an action leaves behind. -/
def after (act : ExceptT ε (StateM ω) α) (w : ω) : ω := (act w).2

variable {act : ExceptT ε (StateM ω) α} {next : α → ExceptT ε (StateM ω) β} {w : ω}

theorem bind_apply : (act >>= next) w =
    match outcome act w with
    | .ok a => (outcome (next a) (after act w), after (next a) (after act w))
    | .error e => (.error e, after act w) := by
  show (ExceptT.bindCont next (act w).1 : StateM ω (Except ε β)) (act w).2 = _
  unfold outcome after
  cases (act w).1 <;> rfl

theorem get_bind (next : ω → ExceptT ε (StateM ω) α) : (get >>= next) w = next w w := rfl

theorem bind_of_ok {a : α} {w' : ω} (h : act w = (.ok a, w')) : (act >>= next) w = next a w' := by
  rw [bind_apply, outcome, after, h]
  rfl

theorem bind_of_error {e : ε} {w' : ω} (h : act w = (.error e, w')) : (act >>= next) w = (.error e, w') := by
  rw [bind_apply, outcome, after, h]

theorem outcome_bind_of_ok {a : α} (h : outcome act w = .ok a) :
    outcome (act >>= next) w = outcome (next a) (after act w) := by
  rw [outcome, bind_apply, h]

theorem after_bind_of_ok {a : α} (h : outcome act w = .ok a) :
    after (act >>= next) w = after (next a) (after act w) := by
  rw [after, bind_apply, h]

theorem outcome_bind_of_error {e : ε} (h : outcome act w = .error e) : outcome (act >>= next) w = .error e := by
  rw [outcome, bind_apply, h]

theorem after_bind_of_error {e : ε} (h : outcome act w = .error e) : after (act >>= next) w = after act w := by
  rw [after, bind_apply, h]

theorem bind_pure_eq {f : α → β} :
    outcome (act >>= fun a => pure (f a)) w = (outcome act w).map f ∧
      after (act >>= fun a => pure (f a)) w = after act w := by
  cases h : outcome act w with
  | error e => exact ⟨outcome_bind_of_error h, after_bind_of_error h⟩
  | ok a => exact ⟨outcome_bind_of_ok h, after_bind_of_ok h⟩

end Sequence

/-! ### What values have in common -/

/-- Every value that an action gives has a property. -/
def Gives {ε ω α : Type} (act : ExceptT ε (StateM ω) α) (P : α → Prop) : Prop :=
  ∀ w a, outcome act w = .ok a → P a

namespace Gives
variable {ε ω α β : Type} {act : ExceptT ε (StateM ω) α} {next : α → ExceptT ε (StateM ω) β} {P : α → Prop}
  {Q : β → Prop}

theorem any : Gives act fun _ => True := fun _ _ _ => trivial

theorem pure {a : α} (h : P a) : Gives (Pure.pure a : ExceptT ε (StateM ω) α) P := by
  intro w b hb
  obtain rfl := Except.ok.inj hb
  exact h

theorem throw (e : ε) : Gives (MonadExcept.throw e : ExceptT ε (StateM ω) α) P := fun _ _ h => nomatch h

theorem bind (h : Gives act P) (hnext : ∀ a, P a → Gives (next a) Q) : Gives (act >>= next) Q := by
  intro w b hb
  cases hact : outcome act w with
  | error e => exact nomatch (outcome_bind_of_error hact).symm.trans hb
  | ok a => exact hnext a (h w a hact) (after act w) b ((outcome_bind_of_ok hact).symm.trans hb)

end Gives

/-! ### Hosts whose daemon replies in a fixed way -/

namespace Host
variable {σ E : Type}

/-- The daemon's reply depends on the request and the query only. -/
def Replies (host : Host σ E) (reply : Request → String → Except SearchError Response) : Prop :=
  ∀ request text s, (host.query request text s).1 = reply request text

/-- A host without records whose daemon replies in a fixed way. -/
def replying (reply : Request → String → Except SearchError Response) : Host σ E where
  query request text s := (reply request text, s)
  buildExcerpts call s := (.ok call.texts, s)
  resolveCached _ _ s := (none, s)
  resolve _ keys s := (.ok (keys.map fun _ => none), s)
  field? _ _ := none

theorem replies_replying (reply : Request → String → Except SearchError Response) :
    (replying reply : Host σ E).Replies reply := fun _ _ _ => rfl

end Host

/-! ### Calls and their repetition -/

section Calls
variable {σ E α : Type}

/-- Repeating a step that is logged logs it as often. -/
theorem iterate_logged {τ : Type} (step : σ → σ) (entry : τ) (n : Nat) (s : σ × List τ) :
    (fun s : σ × List τ => (step s.1, s.2 ++ [entry]))^[n] s = (step^[n] s.1, s.2 ++ List.replicate n entry) := by
  induction n generalizing s with
  | zero =>
    rw [List.replicate_zero, List.append_nil]
    rfl
  | succ n ih =>
    rw [Function.iterate_succ_apply, Function.iterate_succ_apply, ih, List.append_assoc, List.singleton_append,
      List.replicate_succ]

/-- Whether an outcome is no transient failure. -/
def isFinal : Except SearchError α → Bool
  | .ok _ => true
  | .error error => !error.isTransient

namespace RetryPolicy
variable {policy : RetryPolicy} {name : String} {call : Act σ α}

section Attempt
variable {world : World σ} {error : SearchError}

/-- An attempt that does not fail transiently is the last one. -/
theorem attempt_of_final (left : Nat) (h : isFinal (outcome call world) = true) :
    policy.attempt name call left world = call world := by
  rw [attempt.eq_def]
  unfold outcome at h
  rcases hcall : call world with ⟨error | value, world'⟩
  · have hpermanent : error.isTransient = false := by simpa [hcall, isFinal] using h
    simp [hpermanent]
  · rfl

/-- The policy gives up after a transient failure of the last attempt that it allows. -/
theorem attempt_zero_of_transient (h : outcome call world = .error error) (htransient : error.isTransient) :
    policy.attempt name call 0 world =
      (.error error, (after call world).report [.callAbandoned name policy.maxAttempts error]) := by
  rw [attempt.eq_def]
  unfold outcome at h
  unfold after
  rcases hcall : call world with ⟨error' | value, world'⟩
  · rw [hcall] at h
    obtain rfl := Except.error.inj h
    simp [htransient]
  · rw [hcall] at h
    cases h

/-- After a transient failure the call is attempted again while the policy allows it. -/
theorem attempt_succ_of_transient {left : Nat} (h : outcome call world = .error error)
    (htransient : error.isTransient) : policy.attempt name call (left + 1) world =
      policy.attempt name call left ((after call world).report
        [.callRetried name (policy.maxRetries - left) policy.maxAttempts error]) := by
  rw [attempt.eq_def]
  unfold outcome at h
  unfold after
  rcases hcall : call world with ⟨error' | value, world'⟩
  · rw [hcall] at h
    obtain rfl := Except.error.inj h
    simp [htransient]
  · rw [hcall] at h
    cases h

theorem final_or_transient (call : Act σ α) (world : World σ) :
    isFinal (outcome call world) = true ∨
      ∃ error, outcome call world = .error error ∧ error.isTransient = true := by
  cases outcome call world with
  | ok value => exact .inl rfl
  | error error => cases htransient : error.isTransient <;> simp [isFinal, htransient]

end Attempt

section OnHost
variable {step : σ → Except SearchError α × σ} {s : σ} {left : Nat} {error : SearchError} {errors : List SearchError}

/-- The outcome of a call that has been made some times before. -/
def outcomeAfter (step : σ → Except SearchError α × σ) (s : σ) (calls : Nat) : Except SearchError α :=
  (step ((fun s => (step s).2)^[calls] s)).1

/-- The failures of all attempts but the last, with `left` further attempts at first. -/
structure FailsBefore (step : σ → Except SearchError α × σ) (s : σ) (left : Nat) (errors : List SearchError) :
    Prop where
  failed : ∀ i error, errors[i]? = some error → outcomeAfter step s i = .error error
  transient : ∀ error ∈ errors, error.isTransient = true
  length_le : errors.length ≤ left
  last : isFinal (outcomeAfter step s errors.length) = true ∨ errors.length = left

theorem FailsBefore.nil (h : isFinal (step s).1 = true ∨ 0 = left) : FailsBefore step s left [] :=
  ⟨fun _ _ h => (nomatch h), fun _ h => (nomatch h), Nat.zero_le _, h⟩

theorem FailsBefore.cons (h : (step s).1 = .error error) (htransient : error.isTransient = true)
    (hrest : FailsBefore step (step s).2 left errors) : FailsBefore step s (left + 1) (error :: errors) where
  failed
    | 0, _, hat => (Option.some.inj hat) ▸ h
    | i + 1, error', hat => hrest.failed i error' hat
  transient error' hmem := by
    rcases List.mem_cons.mp hmem with rfl | hmem
    · exact htransient
    · exact hrest.transient error' hmem
  length_le := Nat.succ_le_succ hrest.length_le
  last := hrest.last.imp id (congrArg Nat.succ)

theorem FailsBefore.congr {τ : Type} {step' : τ → Except SearchError α × τ} {s' : τ}
    (h : FailsBefore step s left errors) (heq : ∀ n, outcomeAfter step s n = outcomeAfter step' s' n) :
    FailsBefore step' s' left errors where
  failed i error hat := (heq i).symm.trans (h.failed i error hat)
  transient := h.transient
  length_le := h.length_le
  last := heq errors.length ▸ h.last

/-- What is reported on the last attempt: the policy gives up if this fails transiently. -/
def lastReport (policy : RetryPolicy) (name : String) : Except SearchError α → List Diagnostic
  | .ok _ => []
  | .error error => if error.isTransient then [.callAbandoned name policy.maxAttempts error] else []

theorem lastReport_of_isFinal {policy : RetryPolicy} {name : String} {last : Except SearchError α}
    (h : isFinal last = true) : policy.lastReport name last = [] := by
  cases last with
  | ok value => rfl
  | error error => simpa [lastReport, isFinal] using h

/-- What is reported on failures after which the call is tried again, when the first is that of attempt `number`. -/
def retryReports (policy : RetryPolicy) (name : String) (number : Nat) (errors : List SearchError) : List Diagnostic :=
  errors.mapIdx fun i error => .callRetried name (number + i) policy.maxAttempts error

theorem retryReports_cons (policy : RetryPolicy) (name : String) (number : Nat) (error : SearchError)
    (errors : List SearchError) : policy.retryReports name number (error :: errors) =
      .callRetried name number policy.maxAttempts error :: policy.retryReports name (number + 1) errors := by
  simp only [retryReports, List.mapIdx_cons, Nat.add_zero, Nat.add_assoc, Nat.add_comm 1]

/-- A call with its attempts takes the host through one step for each attempt, and ends as the last one does. Each
    failure before that is reported, with the number of its attempt. -/
theorem attempt_onHost (policy : RetryPolicy) (name : String) (step : σ → Except SearchError α × σ) :
    ∀ left ≤ policy.maxRetries, ∀ world : World σ, ∃ errors, FailsBefore step world.host left errors ∧
      policy.attempt name (Act.onHost step) left world =
        (outcomeAfter step world.host errors.length,
          { world with
            host := (fun s => (step s).2)^[errors.length + 1] world.host
            diagnostics := world.diagnostics ++ policy.retryReports name (policy.maxRetries - left + 1) errors ++
              policy.lastReport name (outcomeAfter step world.host errors.length) })
  | left, hleft, world => by
    have hstep : outcome (Act.onHost step) world = (step world.host).1 := rfl
    rcases final_or_transient (Act.onHost step) world with hfinal | ⟨error, herror, htransient⟩
    · refine ⟨[], .nil (.inl hfinal), ?_⟩
      rw [attempt_of_final left hfinal, outcomeAfter, List.length_nil, Function.iterate_zero, id, ← hstep,
        lastReport_of_isFinal hfinal, hstep]
      simp [retryReports, Act.onHost]
    · cases left with
      | zero =>
        refine ⟨[], .nil (.inr rfl), ?_⟩
        rw [attempt_zero_of_transient herror htransient, outcomeAfter, List.length_nil, Function.iterate_zero, id,
          ← hstep, herror, lastReport, if_pos htransient]
        simp [retryReports, World.report, after, Act.onHost]
      | succ left =>
        -- The report of the retry does not change the host, so the next attempt goes on from this one's state.
        obtain ⟨errors, hrest, hattempt⟩ := attempt_onHost policy name step left (Nat.le_of_succ_le hleft)
          ((after (Act.onHost step) world).report
            [.callRetried name (policy.maxRetries - left) policy.maxAttempts error])
        refine ⟨error :: errors, .cons herror htransient hrest, ?_⟩
        have hnumber : policy.maxRetries - (left + 1) + 1 = policy.maxRetries - left := by omega
        rw [attempt_succ_of_transient herror htransient, hattempt, hnumber, retryReports_cons, List.append_cons]
        rfl

end OnHost

theorem run_onHost (policy : RetryPolicy) (name : String) (step : σ → Except SearchError α × σ) (world : World σ) :
    ∃ failed ≤ policy.maxRetries,
      (∀ i < failed, ∃ error, (step ((fun s => (step s).2)^[i] world.host)).1 = .error error ∧
        error.isTransient = true) ∧
      outcome (policy.run name (Act.onHost step)) world = (step ((fun s => (step s).2)^[failed] world.host)).1 ∧
      (after (policy.run name (Act.onHost step)) world).host = (fun s => (step s).2)^[failed + 1] world.host := by
  obtain ⟨errors, hfails, hrun⟩ := policy.attempt_onHost name step policy.maxRetries (Nat.le_refl _) world
  rw [outcome, after, run, hrun]
  refine ⟨errors.length, hfails.length_le, fun i hi => ?_, rfl, rfl⟩
  have hat := List.getElem?_eq_getElem hi
  exact ⟨errors[i], hfails.failed i _ hat, hfails.transient _ (List.mem_of_getElem? hat)⟩

/-- A query with its attempts ends as one attempt of it does, and leaves the cache alone. -/
theorem run_queryAct {E : Type} (policy : RetryPolicy) (name : String) (host : Host σ E) (request : Request)
    (text : String) (world : World σ) :
    (∃ s, outcome (policy.run name (host.queryAct request text)) world = (host.query request text s).1) ∧
      (after (policy.run name (host.queryAct request text)) world).cache = world.cache := by
  obtain ⟨errors, -, hrun⟩ := policy.attempt_onHost name (host.query request text) policy.maxRetries (Nat.le_refl _)
    world
  have hquery : policy.run name (host.queryAct request text) world = _ := hrun
  rw [outcome, after, hquery]
  exact ⟨⟨_, rfl⟩, rfl⟩

end RetryPolicy
end Calls
end SearchClient
