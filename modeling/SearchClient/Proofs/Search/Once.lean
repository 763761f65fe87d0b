import SearchClient.Proofs.Search.Session
import SearchClient.Proofs.Search.Similar

/-! What is done once for an execution. Between two operations that execute anew, no stage that has succeeded makes
    calls again, and all answers go back to one execution and to one resolution of its references. -/

namespace SearchClient
variable {σ E : Type}

/-! ### The calls of a stage -/

def Call.stage : Call → Search.Stage
  | query .. => .execution
  | resolve .. => .resolution
  | buildExcerpts .. => .excerpts

namespace Search

/-- A transcript goes on with calls of one stage. -/
def GoesOn (stage : Stage) (log log' : List Call) : Prop :=
  ∃ calls, log' = log ++ calls ∧ ∀ call ∈ calls, call.stage = stage

namespace GoesOn
variable {stage : Stage} {log log' : List Call}

theorem refl (stage : Stage) (log : List Call) : GoesOn stage log log :=
  ⟨[], (List.append_nil log).symm, fun _ h => nomatch h⟩

theorem append_call (h : GoesOn stage log log') {call : Call} (hcall : call.stage = stage) :
    GoesOn stage log (log' ++ [call]) := by
  obtain ⟨calls, rfl, hcalls⟩ := h
  refine ⟨calls ++ [call], List.append_assoc .., fun call' hmem => ?_⟩
  rcases List.mem_append.mp hmem with hmem | hmem
  · exact hcalls call' hmem
  · rw [List.mem_singleton.mp hmem, hcall]

end GoesOn

variable {context : SearchContext} {host : Host σ E} {search : Search}

variable (context host search) in
theorem Stage.goesOn_act (stage : Stage) (progress : Progress E) (world : World (σ × List Call)) :
    GoesOn stage world.host.2 (after (stage.act context host.recorded search progress) world).host.2 := by
  -- The host is compared with itself, so that all there is to show about a call is how the transcript goes on.
  have hcalls : stage.SimilarCalls (fun s s' => s = s' ∧ GoesOn stage world.host.2 s.2) search.retry host.recorded
      host.recorded := by
    cases stage with
    | execution =>
      refine fun name request text => Similar.run (.onHost ?_) search.retry name
      rintro s _ ⟨rfl, hlog⟩
      exact ⟨rfl, rfl, hlog.append_call rfl⟩
    | resolution =>
      refine .of_find ?_
      rintro className keys s _ ⟨rfl, hlog⟩
      refine ⟨rfl, rfl, ?_⟩
      rw [Host.find_recorded]
      exact hlog.append_call rfl
    | excerpts =>
      refine ⟨rfl, fun name call => Similar.run (.onHost ?_) search.retry name⟩
      rintro s _ ⟨rfl, hlog⟩
      exact ⟨rfl, rfl, hlog.append_call rfl⟩
  exact ((Stage.similar_act hcalls progress) world world ⟨⟨rfl, .refl _ _⟩, rfl⟩).2.1.2

/-- A transcript goes on with the calls of attempts, one attempt after another. -/
def IsTranscript (attempts : List (Attempt E)) (log log' : List Call) : Prop :=
  ∃ logs : List (List Call), log' = log ++ logs.flatten ∧
    List.Forall₂ (fun attempt calls => ∀ call ∈ calls, call.stage = attempt.stage) attempts logs

theorem IsTranscript.cons {attempt : Attempt E} {attempts : List (Attempt E)} {log log' log'' : List Call}
    (h : GoesOn attempt.stage log log') (h' : IsTranscript attempts log' log'') :
    IsTranscript (attempt :: attempts) log log'' := by
  obtain ⟨calls, rfl, hcalls⟩ := h
  obtain ⟨logs, rfl, hlogs⟩ := h'
  exact ⟨calls :: logs, by rw [List.flatten_cons, List.append_assoc], .cons hcalls hlogs⟩

theorem Course.transcript {session session' : Session (σ × List Call) E} {attempts : List (Attempt E)}
    (h : Course context host.recorded search session attempts session') :
    IsTranscript attempts session.world.host.2 session'.world.host.2 := by
  induction h with
  | done => exact ⟨[], (List.append_nil _).symm, .nil⟩
  | @succeeded session _ stage _ _ _ _ hact _ ih =>
    have hlog := stage.goesOn_act context host search session.progress session.world
    rw [after, hact] at hlog
    exact ih.cons hlog
  | @failed session _ stage _ _ _ _ hact _ ih =>
    have hlog := stage.goesOn_act context host search session.progress session.world
    rw [after, hact] at hlog
    exact ih.cons hlog

/-! ### What later progress keeps -/

def Progress.hitRefs? (progress : Progress E) : Option (List EntityRef) :=
  progress.results.map fun hits => hits.map (·.ref)

/-- A later progress keeps the execution and the references of the hits. -/
structure Progress.Keeps (earlier later : Progress E) : Prop where
  passed : earlier.passed ≤ later.passed
  execution : 0 < earlier.passed → later.execution = earlier.execution
  refs : 1 < earlier.passed → later.hitRefs? = earlier.hitRefs?

namespace Progress.Keeps
variable {earlier later latest : Progress E}

theorem refl (progress : Progress E) : progress.Keeps progress := ⟨Nat.le_refl _, fun _ => rfl, fun _ => rfl⟩

theorem of_makes {stage : Stage} (hnext : earlier.passed = stage.index)
    (hmakes : stage.Makes context search earlier later) : earlier.Keeps later := by
  have hlt := hmakes.lt_passed hnext
  cases hmakes with
  | execution =>
    rw [Stage.index] at hnext
    exact ⟨by omega, by omega, by omega⟩
  | resolution =>
    rw [Stage.index] at hnext
    exact ⟨by omega, fun _ => rfl, by omega⟩
  | excerpts hrefs =>
    obtain ⟨hits, hhits⟩ := Option.isSome_iff_exists.mp (resolved_of_passed_eq hnext).2
    refine ⟨by omega, fun _ => rfl, fun _ => ?_⟩
    rw [hhits] at hrefs
    rw [hitRefs?, hitRefs?, hhits]
    exact congrArg some hrefs

theorem trans (h : earlier.Keeps later) (h' : later.Keeps latest) : earlier.Keeps latest where
  passed := Nat.le_trans h.passed h'.passed
  execution hpos := (h'.execution (Nat.lt_of_lt_of_le hpos h.passed)).trans (h.execution hpos)
  refs hpos := (h'.refs (Nat.lt_of_lt_of_le hpos h.passed)).trans (h.refs hpos)

end Progress.Keeps

theorem Course.keeps {session session' : Session σ E} {attempts : List (Attempt E)}
    (h : Course context host search session attempts session') : session.progress.Keeps session'.progress :=
  h.induct (.refl _) fun hkeeps hnext hmakes => hkeeps.trans (.of_makes hnext hmakes)

theorem Course.execution_of_mem {session session' : Session σ E} {attempts : List (Attempt E)}
    {executed : Progress E} (h : Course context host search session attempts session')
    (hmem : ⟨.execution, .ok executed⟩ ∈ attempts) : session'.progress.execution = executed := by
  induction h with
  | done => cases hmem
  | @succeeded session _ stage progress _ _ hnext hact hrest ih =>
    rcases List.mem_cons.mp hmem with heq | hmem
    · obtain ⟨rfl, hok⟩ := Attempt.mk.inj heq
      obtain rfl := Except.ok.inj hok
      have hexecution := gives_execute context host search session.world executed (congrArg Prod.fst hact)
      rw [hrest.keeps.execution (zero_lt_passed_iff.mpr hexecution.executed)]
      rw [Progress.execution, ← hexecution.unresolved, ← hexecution.unexcerpted]
    · exact ih hmem
  | failed _ _ _ ih =>
    rcases List.mem_cons.mp hmem with heq | hmem
    · exact nomatch (Attempt.mk.inj heq).2
    · exact ih hmem

/-- The execution that a course from a progress finds, or the one that it makes. -/
inductive InForce (start : Progress E) (attempts : List (Attempt E)) : Progress E → Prop
  | found : start.executed = true → InForce start attempts start.execution
  | made {executed : Progress E} : ⟨.execution, .ok executed⟩ ∈ attempts → InForce start attempts executed

theorem InForce.execution_eq {session session' : Session σ E} {attempts : List (Attempt E)} {executed : Progress E}
    (hexecuted : InForce session.progress attempts executed)
    (h : Course context host search session attempts session') : session'.progress.execution = executed := by
  cases hexecuted with
  | found hexecuted => exact h.keeps.execution (zero_lt_passed_iff.mpr hexecuted)
  | made hmem => exact h.execution_of_mem hmem

theorem Course.inForce {session session' : Session σ E} {attempts : List (Attempt E)}
    (h : Course context host search session attempts session') (hexecuted : session'.progress.executed = true) :
    InForce session.progress attempts session'.progress.execution := by
  have hcases : session.progress.executed = true ∨ ∃ executed, ⟨.execution, .ok executed⟩ ∈ attempts := by
    induction h with
    | done => exact .inl hexecuted
    | @succeeded session _ stage progress _ _ hnext _ _ ih =>
      cases stage with
      | execution => exact .inr ⟨progress, List.mem_cons_self ..⟩
      | resolution | excerpts => exact .inl (executed_of_passed_eq hnext)
    | failed _ _ _ ih => exact (ih hexecuted).imp_right fun ⟨executed, hmem⟩ => ⟨executed, List.mem_cons_of_mem _ hmem⟩
  rcases hcases with hstart | ⟨executed, hmem⟩
  · rw [h.keeps.execution (zero_lt_passed_iff.mpr hstart)]
    exact .found hstart
  · rw [h.execution_of_mem hmem]
    exact .made hmem

/-! ### Answers -/

/-- An answer, with the references of hits in their place. -/
def Answer.outline : Answer E → Answer E
  | .hits found => .refs (found.map (·.ref))
  | answer => answer

theorem map_ref_getD (progress : Progress E) :
    (progress.results.getD []).map (·.ref) = progress.hitRefs?.getD [] := by
  unfold Progress.hitRefs?
  cases progress.results <;> rfl

theorem Progress.Keeps.answer {earlier later : Progress E} (h : earlier.Keeps later) (accessor : Accessor)
    (hpassed : accessor.stages.length ≤ earlier.passed) :
    (accessor.answer context search later).map Answer.outline =
      (accessor.answer context search earlier).map Answer.outline := by
  have hexecution := congrArg (fun progress => (accessor.answer context search progress).map Answer.outline)
    (h.execution (Nat.lt_of_lt_of_le accessor.length_stages_pos hpassed))
  cases accessor with
  | results | excerpt =>
    have hpos : 1 < earlier.passed := Nat.lt_of_lt_of_le (by decide) hpassed
    have hrefs : (later.results.getD []).map (·.ref) = (earlier.results.getD []).map (·.ref) := by
      rw [map_ref_getD, map_ref_getD, h.refs hpos]
    exact congrArg (fun refs => Except.ok (Answer.refs refs)) hrefs
  | _ => exact hexecution

variable (context host search) in
theorem course_access (accessor : Accessor) (session : Session σ E) :
    ∃ attempts, Course context host search session attempts (access context host search accessor session).2 ∧
      ∀ answer, outcome (access context host search accessor) session = .ok answer →
        accessor.stages.length ≤ (access context host search accessor session).2.progress.passed ∧
        accessor.answer context search (access context host search accessor session).2.progress = .ok answer := by
  rw [outcome]
  rcases access_cases context host search accessor session with
    ⟨error, -, hrefused⟩ | ⟨-, reached, ⟨attempts, hcourse, -⟩, hend⟩
  · rw [hrefused]
    exact ⟨[], .done session, fun _ hok => by cases hok⟩
  · rcases hend with ⟨hanswer, hpassed⟩ | ⟨stage, -, error, session', hfails, herror⟩
    · rw [hanswer]
      exact ⟨attempts, hcourse, fun answer hok => ⟨hpassed, hok⟩⟩
    · rw [herror]
      exact ⟨_, hcourse.append hfails.course, fun _ hok => by cases hok⟩

variable (context host search) in
/-- Accessors go on one course, and at its end they would all answer again as they have answered. -/
theorem course_performAll : ∀ (accessors : List Accessor) (session : Session σ E),
    let performed := performAll context host search (accessors.map .access) session
    ∃ attempts, Course context host search session attempts performed.2 ∧
      ∀ accessor answer, (accessor, .ok answer) ∈ accessors.zip performed.1 →
        accessor.stages.length ≤ performed.2.progress.passed ∧
        (accessor.answer context search performed.2.progress).map Answer.outline = .ok answer.outline
  | [], session => ⟨[], .done session, fun _ _ hmem => nomatch hmem⟩
  | accessor :: accessors, session => by
    obtain ⟨attempts, hcourse, hanswer⟩ := course_access context host search accessor session
    obtain ⟨attempts', hcourse', hanswers⟩ :=
      course_performAll accessors (access context host search accessor session).2
    refine ⟨attempts ++ attempts', hcourse.append hcourse', fun accessor' answer hmem => ?_⟩
    rcases List.mem_cons.mp hmem with heq | hmem
    · obtain ⟨rfl, hok⟩ := Prod.mk.inj heq
      obtain ⟨hpassed, hsame⟩ := hanswer answer hok.symm
      refine ⟨Nat.le_trans hpassed hcourse'.keeps.passed, ?_⟩
      exact (hcourse'.keeps.answer accessor' hpassed).trans (congrArg (·.map Answer.outline) hsame)
    · exact hanswers accessor' answer hmem

/-- From an operation on, as long as no other one executes anew: each stage that succeeds is the last attempt of
    its kind, there are no calls but those of the attempts, and all answers are read off one execution. -/
theorem performAll_once (context : SearchContext) (host : Host σ E) (search : Search) (operations : List Operation)
    (operation : Operation) (accessors : List Accessor) (world : World (σ × List Call)) :
    let session := (performAll context host.recorded search operations { world }).2
    let start := operation.entry session
    let performed := performAll context host.recorded search (operation :: accessors.map .access) session
    let final := performed.2
    ∃ attempts : List (Attempt E),
      Course context host.recorded search start attempts final ∧
      (∀ attempt ∈ attempts, attempt.stage.isPassed start.progress = false) ∧
      (attempts.Pairwise fun earlier later => earlier.outcome.isOk = true → later.stage ≠ earlier.stage) ∧
      IsTranscript attempts start.world.host.2 final.world.host.2 ∧
      (∀ executed, InForce start.progress attempts executed → final.progress.execution = executed) ∧
      (∀ hits, final.progress.results = some hits → (hits.map (·.ref)).Sublist final.progress.refs) ∧
      ∀ accessor answer, (accessor, .ok answer) ∈ (operation.accessor :: accessors).zip performed.1 →
        InForce start.progress attempts final.progress.execution ∧
        (accessor.answer context search final.progress).map Answer.outline = .ok answer.outline := by
  intro session start performed final
  -- An operation that executes anew is an accessor of the session without progress, and may go with the others.
  have hperformed : performed =
      performAll context host.recorded search ((operation.accessor :: accessors).map .access) start := by
    change performAll context host.recorded search (operation :: accessors.map .access) session = _
    rw [List.map_cons, performAll, performAll, perform_eq_access]
    rfl
  have hsound : start.progress.Sound context search :=
    operation.entry_keeps (.empty context search) (sound_performAll operations world)
  obtain ⟨attempts, hcourse, hanswers⟩ :=
    course_performAll context host.recorded search (operation.accessor :: accessors) start
  rw [← hperformed] at hcourse hanswers
  refine ⟨attempts, hcourse, fun attempt hmem => ?_, hcourse.once, hcourse.transcript,
    fun executed hexecuted => hexecuted.execution_eq hcourse, fun hits hhits => ?_, fun accessor answer hmem => ?_⟩
  · have hle := hcourse.passed_le_index attempt hmem
    exact Bool.eq_false_iff.mpr fun hpassed => Nat.not_lt.mpr hle ((hsound.isPassed_iff _).mp hpassed)
  · exact ((hcourse.sound hsound).results hits hhits).2
  · obtain ⟨hpassed, hanswer⟩ := hanswers accessor answer hmem
    exact ⟨hcourse.inForce <| zero_lt_passed_iff.mp (Nat.lt_of_lt_of_le accessor.length_stages_pos hpassed), hanswer⟩

/-- A host whose records cannot be looked up the first time. -/
def lateRecords : Host Nat String where
  query _ _ lookups := (.ok { totalFound := 1, matched := [⟨7, 0, 1⟩] }, lookups)
  buildExcerpts call lookups := (.ok call.texts, lookups)
  resolveCached _ _ lookups := (none, lookups)
  resolve _ keys lookups := (if lookups = 0 then .error "down" else .ok (keys.map fun _ => some "seller"), lookups + 1)
  field? _ _ := none

/-- The first operation executes the search and fails to resolve the one reference; the later ones make up for that
    and go back to its execution. -/
theorem performAll_once_lateRecords :
    let context : SearchContext := ⟨{}, .ofPairs [("Seller", 0)]⟩
    let performed := performAll context lateRecords.recorded dogByColor
      (.run :: [Accessor.results, .excerpt, .response].map .access) { world := ⟨(0, []), {}, []⟩ }
    performed.1.map Except.isOk = [false, true, true, true] ∧
    performed.2.world.host.2.map Call.stage = [.execution, .execution, .resolution, .resolution, .excerpts] ∧
    ∃ attempts, Course context lateRecords.recorded dogByColor { world := ⟨(0, []), {}, []⟩ } attempts performed.2 ∧
      (∀ executed, InForce {} attempts executed → performed.2.progress.execution = executed) ∧
      attempts.Pairwise fun earlier later => earlier.outcome.isOk = true → later.stage ≠ earlier.stage := by
  intro context performed
  obtain ⟨attempts, hcourse, -, honce, -, hexecution, -⟩ := performAll_once context lateRecords dogByColor [] .run
    [.results, .excerpt, .response] ⟨(0, []), {}, []⟩
  exact ⟨by decide, by decide, attempts, hcourse, hexecution, honce⟩

end Search
end SearchClient
