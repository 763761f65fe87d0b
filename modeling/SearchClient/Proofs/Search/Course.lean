import SearchClient.Proofs.Search.Execution
import SearchClient.Proofs.Search.Stage

/-! The course of a session: which stages were attempted, in which order, and how they went. A stage is attempted
    when those before it have been passed and it has not been passed itself. -/

namespace SearchClient.Search
variable {σ E : Type}

/-! ### How far a session has got -/

def Stage.index : Stage → Nat
  | .execution => 0
  | .resolution => 1
  | .excerpts => 2

/-- The number of stages that have been passed, up to the first that has not. -/
def Progress.passed (progress : Progress E) : Nat :=
  if !progress.executed then 0
  else if !progress.results.isSome then 1
  else if !progress.excerpted then 2
  else 3

theorem zero_lt_passed_iff {progress : Progress E} : 0 < progress.passed ↔ progress.executed = true := by
  unfold Progress.passed
  cases progress.executed <;> cases progress.results.isSome <;> cases progress.excerpted <;> decide

theorem one_lt_passed_iff {progress : Progress E} :
    1 < progress.passed ↔ progress.executed = true ∧ progress.results.isSome = true := by
  unfold Progress.passed
  cases progress.executed <;> cases progress.results.isSome <;> cases progress.excerpted <;> decide

theorem two_lt_passed_iff {progress : Progress E} :
    2 < progress.passed ↔ progress.executed = true ∧ progress.results.isSome = true ∧ progress.excerpted = true := by
  unfold Progress.passed
  cases progress.executed <;> cases progress.results.isSome <;> cases progress.excerpted <;> decide

theorem executed_of_passed_eq {progress : Progress E} {n : Nat} (h : progress.passed = n + 1) :
    progress.executed = true := zero_lt_passed_iff.mp (by omega)

theorem resolved_of_passed_eq {progress : Progress E} {n : Nat} (h : progress.passed = n + 2) :
    progress.executed = true ∧ progress.results.isSome = true := one_lt_passed_iff.mp (by omega)

theorem Stage.isPassed_iff {stage : Stage} {progress : Progress E} (h : stage.index ≤ progress.passed) :
    stage.isPassed progress = true ↔ stage.index < progress.passed := by
  cases stage with
  | execution => exact zero_lt_passed_iff.symm
  | resolution => exact Iff.trans (by simp [isPassed, zero_lt_passed_iff.mp h]) one_lt_passed_iff.symm
  | excerpts =>
    obtain ⟨hexecuted, hresults⟩ := one_lt_passed_iff.mp h
    exact Iff.trans (by simp [isPassed, hexecuted, hresults]) two_lt_passed_iff.symm

variable {context : SearchContext} {host : Host σ E} {search : Search}

variable (context search) in
/-- What a stage makes of a progress when it succeeds. -/
inductive Stage.Makes (progress : Progress E) : Stage → Progress E → Prop
  | execution {executed : Progress E} : IsExecution context search executed → Makes progress .execution executed
  | resolution {hits : List (Hit E)} : (hits.map (·.ref)).Sublist progress.refs →
      (∀ hit ∈ hits, hit.excerpts = .empty) → Makes progress .resolution { progress with results := some hits }
  | excerpts {hits : List (Hit E)} : hits.map (·.ref) = (progress.results.getD []).map (·.ref) →
      Makes progress .excerpts { progress with results := some hits, excerpted := true }

theorem Stage.gives_act (stage : Stage) (progress : Progress E) :
    Gives (stage.act context host search progress) (Stage.Makes context search progress stage) := by
  cases stage with
  | execution => exact fun world executed h => .execution (gives_execute context host search world executed h)
  | resolution => exact (gives_resolveHits host progress.refs).bind fun hits h => .pure (.resolution h.1 h.2)
  | excerpts => exact (gives_excerptHits host _ _ _ _ _).bind fun hits h => .pure (.excerpts h)

theorem Stage.makes_of_act {stage : Stage} {progress progress' : Progress E} {world world' : World σ}
    (h : stage.act context host search progress world = (.ok progress', world')) :
    stage.Makes context search progress progress' := stage.gives_act progress world progress' (congrArg Prod.fst h)

theorem Stage.Makes.lt_passed {stage : Stage} {progress progress' : Progress E}
    (h : stage.Makes context search progress progress') (hnext : progress.passed = stage.index) :
    stage.index < progress'.passed := by
  cases h with
  | execution h => exact zero_lt_passed_iff.mpr h.executed
  | resolution =>
    have hexecuted : progress.executed = true := executed_of_passed_eq hnext
    exact one_lt_passed_iff.mpr ⟨hexecuted, rfl⟩
  | excerpts =>
    have hexecuted : progress.executed = true := executed_of_passed_eq hnext
    exact two_lt_passed_iff.mpr ⟨hexecuted, rfl, rfl⟩

/-! ### Courses -/

structure Attempt (E : Type) where
  stage : Stage
  outcome : Except SearchError (Progress E)

variable (context host search) in
/-- From a session to a later one by attempts of stages, each of which is the next one at the time. -/
inductive Course : Session σ E → List (Attempt E) → Session σ E → Prop
  | done (session : Session σ E) : Course session [] session
  | succeeded {session session' : Session σ E} {stage : Stage} {progress : Progress E} {world : World σ}
      {attempts : List (Attempt E)} :
      session.progress.passed = stage.index →
      stage.act context host search session.progress session.world = (.ok progress, world) →
      Course ⟨progress, world⟩ attempts session' → Course session (⟨stage, .ok progress⟩ :: attempts) session'
  | failed {session session' : Session σ E} {stage : Stage} {error : SearchError} {world : World σ}
      {attempts : List (Attempt E)} :
      session.progress.passed = stage.index →
      stage.act context host search session.progress session.world = (.error error, world) →
      Course ⟨session.progress, world⟩ attempts session' → Course session (⟨stage, .error error⟩ :: attempts) session'

namespace Course
variable {session session' session'' : Session σ E} {attempts attempts' : List (Attempt E)}

theorem append (h : Course context host search session attempts session')
    (h' : Course context host search session' attempts' session'') :
    Course context host search session (attempts ++ attempts') session'' := by
  induction h with
  | done => exact h'
  | succeeded hnext hact _ ih => exact .succeeded hnext hact (ih h')
  | failed hnext hact _ ih => exact .failed hnext hact (ih h')

/-- What each success keeps holds at the end of a course. -/
theorem induct {P : Progress E → Prop} (h : Course context host search session attempts session')
    (hstart : P session.progress)
    (hstep : ∀ {stage : Stage} {progress progress' : Progress E}, P progress → progress.passed = stage.index →
      stage.Makes context search progress progress' → P progress') : P session'.progress := by
  induction h with
  | done => exact hstart
  | @succeeded session _ stage _ _ _ hnext hact _ ih =>
    exact ih (hstep hstart hnext (Stage.makes_of_act hact))
  | failed _ _ _ ih => exact ih hstart

theorem passed_le (h : Course context host search session attempts session') :
    session.progress.passed ≤ session'.progress.passed := by
  refine h.induct (P := fun progress => session.progress.passed ≤ progress.passed) (Nat.le_refl _) ?_
  intro stage progress progress' hle hnext hmakes
  have hlt := hmakes.lt_passed hnext
  omega

theorem passed_le_index (h : Course context host search session attempts session') :
    ∀ attempt ∈ attempts, session.progress.passed ≤ attempt.stage.index := by
  induction h with
  | done => exact fun _ hmem => nomatch hmem
  | @succeeded session _ stage _ _ _ hnext hact hrest ih =>
    have hlt := (Stage.makes_of_act hact).lt_passed hnext
    intro attempt hmem
    rcases List.mem_cons.mp hmem with rfl | hmem
    · exact Nat.le_of_eq hnext
    · have := ih attempt hmem
      dsimp only at this
      omega
  | failed hnext _ _ ih =>
    intro attempt hmem
    rcases List.mem_cons.mp hmem with rfl | hmem
    · exact Nat.le_of_eq hnext
    · exact ih attempt hmem

/-- A stage that has succeeded is not attempted again. -/
theorem once (h : Course context host search session attempts session') :
    attempts.Pairwise fun earlier later => earlier.outcome.isOk = true → later.stage ≠ earlier.stage := by
  induction h with
  | done => exact .nil
  | @succeeded session _ stage _ _ _ hnext hact hrest ih =>
    -- The rest of the course starts behind the stage, and attempts only what has not been passed there.
    have hlt := (Stage.makes_of_act hact).lt_passed hnext
    refine .cons (fun later hmem _ heq => ?_) ih
    have hle := hrest.passed_le_index later hmem
    dsimp only at hle heq
    rw [heq] at hle
    omega
  | failed _ _ _ ih => exact .cons (fun _ _ hok => nomatch hok) ih

end Course

/-! ### The courses of operations -/

section Operations
variable {session : Session σ E}

theorem advance_of_passed {stage : Stage} (h : stage.isPassed session.progress = true) :
    advance context host search stage session = (.ok (), session) := by
  rw [advance, get_bind, if_pos h]
  rfl

theorem advance_of_ok {stage : Stage} {progress : Progress E} {world : World σ}
    (h : stage.isPassed session.progress = false)
    (hact : stage.act context host search session.progress session.world = (.ok progress, world)) :
    advance context host search stage session = (.ok (), ⟨progress, world⟩) := by
  rw [advance, get_bind, if_neg (by rw [h]; decide), bind_of_ok (ofAct_of_ok hact)]
  rfl

theorem advance_of_error {stage : Stage} {error : SearchError} {world : World σ}
    (h : stage.isPassed session.progress = false)
    (hact : stage.act context host search session.progress session.world = (.error error, world)) :
    advance context host search stage session = (.error error, { session with world }) := by
  rw [advance, get_bind, if_neg (by rw [h]; decide), bind_of_error (ofAct_of_error hact)]

variable (context host search) in
/-- From a session to a later one by stages that succeed. -/
def Passes (session session' : Session σ E) : Prop :=
  ∃ attempts, Course context host search session attempts session' ∧ ∀ attempt ∈ attempts, attempt.outcome.isOk = true

variable (context host search) in
/-- A session cannot pass its next stage, which fails and leaves the progress alone. -/
def FailsAt (session : Session σ E) (stage : Stage) (error : SearchError) (session' : Session σ E) : Prop :=
  session.progress.passed = stage.index ∧ session'.progress = session.progress ∧
    stage.act context host search session.progress session.world = (.error error, session'.world)

theorem Passes.refl (session : Session σ E) : Passes context host search session session :=
  ⟨[], .done session, fun _ hmem => nomatch hmem⟩

theorem Passes.trans {session' session'' : Session σ E} (h : Passes context host search session session')
    (h' : Passes context host search session' session'') : Passes context host search session session'' := by
  obtain ⟨attempts, hcourse, hok⟩ := h
  obtain ⟨attempts', hcourse', hok'⟩ := h'
  refine ⟨attempts ++ attempts', hcourse.append hcourse', fun attempt hmem => ?_⟩
  rcases List.mem_append.mp hmem with hmem | hmem
  · exact hok attempt hmem
  · exact hok' attempt hmem

theorem Passes.of_act {stage : Stage} {progress : Progress E} {world : World σ}
    (hnext : session.progress.passed = stage.index)
    (hact : stage.act context host search session.progress session.world = (.ok progress, world)) :
    Passes context host search session ⟨progress, world⟩ := by
  refine ⟨[⟨stage, .ok progress⟩], .succeeded hnext hact (.done _), fun attempt hmem => ?_⟩
  rw [List.mem_singleton.mp hmem]
  rfl

theorem FailsAt.course {stage : Stage} {error : SearchError} {session' : Session σ E}
    (h : FailsAt context host search session stage error session') :
    Course context host search session [⟨stage, .error error⟩] session' := by
  obtain ⟨hnext, hprogress, hact⟩ := h
  refine .failed hnext hact ?_
  rw [← hprogress]
  exact .done session'

variable (context host search) in
theorem advance_cases (stage : Stage) (h : stage.index ≤ session.progress.passed) :
    (∃ session', advance context host search stage session = (.ok (), session') ∧
      Passes context host search session session' ∧ stage.index < session'.progress.passed) ∨
    ∃ error session', advance context host search stage session = (.error error, session') ∧
      FailsAt context host search session stage error session' := by
  have hiff := Stage.isPassed_iff h
  cases hpassed : stage.isPassed session.progress with
  | true => exact .inl ⟨session, advance_of_passed hpassed, .refl session, hiff.mp hpassed⟩
  | false =>
    have hnext : session.progress.passed = stage.index := by
      rw [hpassed] at hiff
      have := hiff.not.mp Bool.false_ne_true
      omega
    rcases hact : stage.act context host search session.progress session.world with ⟨error | progress, world⟩
    · exact .inr ⟨error, _, advance_of_error hpassed hact, hnext, rfl, hact⟩
    · have hlt := (Stage.makes_of_act hact).lt_passed hnext
      exact .inl ⟨_, advance_of_ok hpassed hact, .of_act hnext hact, hlt⟩

variable (context host search) in
/-- Stages that follow on what has been passed are passed one after another, up to the first that fails. -/
theorem advanceAll_cases : ∀ (stages : List Stage) (n : Nat) (session : Session σ E),
    stages.map Stage.index = List.range' n stages.length → n ≤ session.progress.passed →
    ∃ reached, Passes context host search session reached ∧
      (advanceAll context host search stages session = (.ok (), reached) ∧
          n + stages.length ≤ reached.progress.passed ∨
        ∃ stage ∈ stages, ∃ error session', FailsAt context host search reached stage error session' ∧
          advanceAll context host search stages session = (.error error, session'))
  | [], n, session, _, hn => ⟨session, .refl session, .inl ⟨rfl, hn⟩⟩
  | stage :: stages, n, session, hstages, hn => by
    obtain ⟨rfl, hrest⟩ := List.cons.inj hstages
    rcases advance_cases context host search stage hn with
      ⟨next, hadvance, hpasses, hlt⟩ | ⟨error, session', hadvance, hfails⟩
    · obtain ⟨reached, hpasses', hend⟩ := advanceAll_cases stages (stage.index + 1) next hrest hlt
      refine ⟨reached, hpasses.trans hpasses', ?_⟩
      rw [advanceAll, bind_of_ok hadvance, List.length_cons]
      rcases hend with ⟨hok, hle⟩ | ⟨stage', hmem, hfailed⟩
      · exact .inl ⟨hok, by omega⟩
      · exact .inr ⟨stage', List.mem_cons_of_mem _ hmem, hfailed⟩
    · exact ⟨session, .refl session, .inr ⟨stage, List.mem_cons_self .., error, session', hfails,
        bind_of_error hadvance⟩⟩

theorem Accessor.map_index_stages (accessor : Accessor) :
    accessor.stages.map Stage.index = List.range' 0 accessor.stages.length := by
  cases accessor <;> rfl

theorem Accessor.length_stages_pos (accessor : Accessor) : 0 < accessor.stages.length := by
  cases accessor <;> exact Nat.succ_pos _

variable (context host search) in
/-- An accessor refuses and does nothing, or goes through its stages and fails at one or reads off its answer. -/
theorem access_cases (accessor : Accessor) (session : Session σ E) :
    (∃ error, accessor.refusal? context search = some error ∧
      access context host search accessor session = (.error error, session)) ∨
    accessor.refusal? context search = none ∧ ∃ reached, Passes context host search session reached ∧
      (access context host search accessor session = (accessor.answer context search reached.progress, reached) ∧
          accessor.stages.length ≤ reached.progress.passed ∨
        ∃ stage ∈ accessor.stages, ∃ error session', FailsAt context host search reached stage error session' ∧
          access context host search accessor session = (.error error, session')) := by
  rw [access_eq_staged, staged]
  cases accessor.refusal? context search with
  | some error => exact .inl ⟨error, rfl, rfl⟩
  | none =>
    obtain ⟨reached, hpasses, hend⟩ := advanceAll_cases context host search accessor.stages 0 session
      accessor.map_index_stages (Nat.zero_le _)
    refine .inr ⟨rfl, reached, hpasses, ?_⟩
    rcases hend with ⟨hok, hle⟩ | ⟨stage, hmem, error, session', hfails, herror⟩
    · rw [Nat.zero_add] at hle
      exact .inl ⟨bind_of_ok hok, hle⟩
    · exact .inr ⟨stage, hmem, error, session', hfails, bind_of_error herror⟩

end Operations

end SearchClient.Search
