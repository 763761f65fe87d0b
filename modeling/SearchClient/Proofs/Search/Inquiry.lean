import SearchClient.Proofs.Search.Action

/-! Queries that an action makes of the daemon. An inquiry is a query with all its attempts; an action that follows a
    plan makes one inquiry for each planned request, up to the first that fails, and fails as this one does. Each
    attempt is one call in the transcript. -/

namespace SearchClient
variable {σ E α β : Type}

/-- A query that has been made. -/
structure Inquiry where
  request : Request
  /-- The failures of all attempts but the last. -/
  errors : List SearchError
  /-- The outcome of the last attempt. -/
  reply : Except SearchError Response

namespace Inquiry

def attempts (inquiry : Inquiry) : Nat := inquiry.errors.length + 1

def calls (text : String) (inquiry : Inquiry) : List Call :=
  List.replicate inquiry.attempts (.query inquiry.request text)

/-- The attempts of an inquiry are those that the policy makes from a state of the host on, and lead to another one. -/
structure Leads (host : Host σ E) (retry : RetryPolicy) (text : String) (s : σ) (inquiry : Inquiry) (s' : σ) :
    Prop where
  errors : RetryPolicy.FailsBefore (host.query inquiry.request text) s retry.maxRetries inquiry.errors
  reply : RetryPolicy.outcomeAfter (host.query inquiry.request text) s inquiry.errors.length = inquiry.reply
  state : (fun s => (host.query inquiry.request text s).2)^[inquiry.attempts] s = s'

/-- Inquiries one after another, each from the state that the one before has led to. -/
inductive LeadInTurn (host : Host σ E) (retry : RetryPolicy) (text : String) : σ → List Inquiry → σ → Prop
  | done (s : σ) : LeadInTurn host retry text s [] s
  | next {s s' s'' : σ} {inquiry : Inquiry} {inquiries : List Inquiry} : inquiry.Leads host retry text s s' →
      LeadInTurn host retry text s' inquiries s'' → LeadInTurn host retry text s (inquiry :: inquiries) s''

theorem LeadInTurn.append {host : Host σ E} {retry : RetryPolicy} {text : String} {s s' s'' : σ}
    {inquiries inquiries' : List Inquiry} (h : LeadInTurn host retry text s inquiries s')
    (h' : LeadInTurn host retry text s' inquiries' s'') :
    LeadInTurn host retry text s (inquiries ++ inquiries') s'' := by
  induction h with
  | done => exact h'
  | next hleads _ ih => exact .next hleads (ih h')

end Inquiry

/-! ### Up to the first failure -/

/-- Of planned requests, those are inquired about that come before the first failure, and the one that fails. -/
inductive UpToFailure : List Request → List Inquiry → Except SearchError α → Prop
  | done (a : α) : UpToFailure [] [] (.ok a)
  | failed {inquiry : Inquiry} {error : SearchError} {requests : List Request} : inquiry.reply = .error error →
      UpToFailure (inquiry.request :: requests) [inquiry] (.error error)
  | answered {inquiry : Inquiry} {response : Response} {requests : List Request} {inquiries : List Inquiry}
      {outcome : Except SearchError α} : inquiry.reply = .ok response → UpToFailure requests inquiries outcome →
      UpToFailure (inquiry.request :: requests) (inquiry :: inquiries) outcome

namespace UpToFailure
variable {requests requests' : List Request} {inquiries inquiries' : List Inquiry} {error : SearchError}
  {outcome : Except SearchError α}

theorem append_error (h : UpToFailure requests inquiries (.error error : Except SearchError α)) :
    UpToFailure (requests ++ requests') inquiries (.error error : Except SearchError β) := by
  generalize hfailed : (Except.error error : Except SearchError α) = failed at h
  induction h with
  | done => cases hfailed
  | failed hreply =>
    cases hfailed
    exact .failed hreply
  | answered hreply _ ih => exact .answered hreply (ih hfailed)

theorem append {a : α} {outcome : Except SearchError β}
    (h : UpToFailure requests inquiries (.ok a)) (h' : UpToFailure requests' inquiries' outcome) :
    UpToFailure (requests ++ requests') (inquiries ++ inquiries') outcome := by
  generalize hok : (Except.ok a : Except SearchError α) = ended at h
  induction h with
  | done => exact h'
  | failed => cases hok
  | answered hreply _ ih => exact .answered hreply (ih hok)

theorem map_request_of_ok {a : α} (h : UpToFailure requests inquiries (.ok a)) :
    inquiries.map (·.request) = requests := by
  generalize hok : (Except.ok a : Except SearchError α) = ended at h
  induction h with
  | done => rfl
  | failed => cases hok
  | answered _ _ ih => rw [List.map_cons, ih hok]

/-- The inquiry that fails is the last one, and its failure is the outcome. -/
theorem eq_error_of_getElem? (h : UpToFailure requests inquiries outcome) {j : Nat} {inquiry : Inquiry}
    (hat : inquiries[j]? = some inquiry) (hreply : inquiry.reply = .error error) :
    inquiries.length = j + 1 ∧ outcome = .error error := by
  induction h generalizing j with
  | done => cases hat
  | failed hfailed =>
    cases j with
    | zero =>
      obtain rfl := Option.some.inj hat
      obtain rfl := Except.error.inj (hfailed.symm.trans hreply)
      exact ⟨rfl, rfl⟩
    | succ j => cases hat
  | answered hanswered _ ih =>
    cases j with
    | zero =>
      obtain rfl := Option.some.inj hat
      exact nomatch hanswered.symm.trans hreply
    | succ j =>
      obtain ⟨hlength, houtcome⟩ := ih hat
      exact ⟨congrArg Nat.succ hlength, houtcome⟩

end UpToFailure

/-! ### Actions that follow a plan -/

/-- From a world on, an action makes inquiries about planned requests up to the first failure, and these are all its
    calls. -/
structure Follows (host : Host σ E) (retry : RetryPolicy) (text : String) (requests : List Request)
    (inquiries : List Inquiry) (act : Act (σ × List Call) α) (world : World (σ × List Call)) : Prop where
  leads : Inquiry.LeadInTurn host retry text world.host.1 inquiries (after act world).host.1
  transcript : (after act world).host.2 = world.host.2 ++ inquiries.flatMap (·.calls text)
  upToFailure : UpToFailure requests inquiries (outcome act world)

namespace Follows
variable {host : Host σ E} {retry : RetryPolicy} {text : String} {requests requests' : List Request}
  {inquiries inquiries' : List Inquiry} {act : Act (σ × List Call) α} {next : α → Act (σ × List Call) β}
  {world : World (σ × List Call)}

/-- An action that does not reach the host follows the empty plan. -/
theorem of_ok {a : α} (houtcome : outcome act world = .ok a) (hhost : (after act world).host = world.host) :
    Follows host retry text [] [] act world where
  leads := by
    rw [hhost]
    exact .done _
  transcript := by rw [hhost, List.flatMap_nil, List.append_nil]
  upToFailure := by
    rw [houtcome]
    exact .done a

theorem bind_of_ok {a : α} (h : Follows host retry text requests inquiries act world)
    (houtcome : outcome act world = .ok a)
    (hnext : Follows host retry text requests' inquiries' (next a) (after act world)) :
    Follows host retry text (requests ++ requests') (inquiries ++ inquiries') (act >>= next) world where
  leads := by
    rw [after_bind_of_ok houtcome]
    exact h.leads.append hnext.leads
  transcript := by
    rw [after_bind_of_ok houtcome, hnext.transcript, h.transcript, List.flatMap_append, List.append_assoc]
  upToFailure := by
    have hupTo := h.upToFailure
    rw [houtcome] at hupTo
    rw [outcome_bind_of_ok houtcome]
    exact hupTo.append hnext.upToFailure

theorem bind_of_error {error : SearchError} (h : Follows host retry text requests inquiries act world)
    (houtcome : outcome act world = .error error) :
    Follows host retry text (requests ++ requests') inquiries (act >>= next) world where
  leads := by
    rw [after_bind_of_error houtcome]
    exact h.leads
  transcript := by rw [after_bind_of_error houtcome, h.transcript]
  upToFailure := by
    have hupTo := h.upToFailure
    rw [houtcome] at hupTo
    rw [outcome_bind_of_error houtcome]
    exact hupTo.append_error

/-- Plans are followed one after another, the second from the world that the first leaves behind. -/
theorem bind (h : Follows host retry text requests inquiries act world)
    (hnext : ∀ a, outcome act world = .ok a →
      ∃ inquiries', Follows host retry text requests' inquiries' (next a) (after act world)) :
    ∃ inquiries', Follows host retry text (requests ++ requests') inquiries' (act >>= next) world := by
  cases houtcome : outcome act world with
  | error error => exact ⟨inquiries, h.bind_of_error houtcome⟩
  | ok a =>
    obtain ⟨inquiries', hfollows⟩ := hnext a houtcome
    exact ⟨inquiries ++ inquiries', h.bind_of_ok houtcome hfollows⟩

/-- What does not reach the host and does not fail may come after a plan. -/
theorem bind_quiet (h : Follows host retry text requests inquiries act world)
    (hnext : ∀ a world', (∃ b, outcome (next a) world' = .ok b) ∧ (after (next a) world').host = world'.host) :
    Follows host retry text requests inquiries (act >>= next) world := by
  rw [← List.append_nil requests]
  cases houtcome : outcome act world with
  | error error => exact h.bind_of_error houtcome
  | ok a =>
    obtain ⟨⟨b, hb⟩, hhost⟩ := hnext a (after act world)
    rw [← List.append_nil inquiries]
    exact h.bind_of_ok houtcome (.of_ok hb hhost)

theorem congr {act' : Act (σ × List Call) α} {world' : World (σ × List Call)}
    (h : Follows host retry text requests inquiries act world) (hact : act' world' = act world)
    (hhost : world'.host = world.host) : Follows host retry text requests inquiries act' world' where
  leads := by
    rw [after, hact, hhost]
    exact h.leads
  transcript := by
    rw [after, hact, hhost]
    exact h.transcript
  upToFailure := by
    rw [outcome, hact]
    exact h.upToFailure

end Follows

/-! ### One query -/

section Query
variable (host : Host σ E) (request : Request) (text : String)

theorem outcomeAfter_recorded (s : σ × List Call) (n : Nat) :
    RetryPolicy.outcomeAfter (host.recorded.query request text) s n =
      RetryPolicy.outcomeAfter (host.query request text) s.1 n := by
  have hstate := congrArg Prod.fst (iterate_logged (fun s => (host.query request text s).2)
    (Call.query request text) n s)
  exact congrArg (fun s => (host.query request text s).1) hstate

/-- A query with its attempts follows the plan of its request. -/
theorem follows_run (retry : RetryPolicy) (name : String) (world : World (σ × List Call)) :
    ∃ inquiry : Inquiry,
      Follows host retry text [request] [inquiry] (retry.run name (host.recorded.queryAct request text)) world ∧
      outcome (retry.run name (host.recorded.queryAct request text)) world = inquiry.reply := by
  obtain ⟨errors, hfails, hrun⟩ :=
    retry.attempt_onHost name (host.recorded.query request text) retry.maxRetries (Nat.le_refl _) world
  have hact : retry.run name (host.recorded.queryAct request text) world = _ := hrun
  have hstate := iterate_logged (fun s => (host.query request text s).2) (Call.query request text)
    (errors.length + 1) world.host
  let inquiry : Inquiry :=
    ⟨request, errors, RetryPolicy.outcomeAfter (host.query request text) world.host.1 errors.length⟩
  have hreply : outcome (retry.run name (host.recorded.queryAct request text)) world = inquiry.reply := by
    rw [outcome, hact]
    exact outcomeAfter_recorded host request text world.host errors.length
  have hhost : (after (retry.run name (host.recorded.queryAct request text)) world).host =
      ((fun s => (host.query request text s).2)^[errors.length + 1] world.host.1,
        world.host.2 ++ List.replicate (errors.length + 1) (.query request text)) := by
    rw [after, hact]
    exact hstate
  refine ⟨inquiry, ⟨?_, ?_, ?_⟩, hreply⟩
  · rw [hhost]
    refine .next ⟨?_, rfl, rfl⟩ (.done _)
    exact hfails.congr (outcomeAfter_recorded host request text world.host)
  · rw [hhost, List.flatMap_singleton]
    rfl
  · show UpToFailure [inquiry.request] [inquiry] _
    rw [hreply]
    cases hlast : inquiry.reply with
    | error error => exact .failed hlast
    | ok response => exact .answered hlast (.done response)

end Query
end SearchClient
