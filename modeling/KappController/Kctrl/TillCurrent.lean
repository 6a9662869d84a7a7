/-
  KappController.Kctrl.TillCurrent — what `printTillCurrent` reports for ONE
  status snapshot.

  `printTillCurrent` is a WALK over the stages present (`walk`): each stage
  prints one line and then either returns (a failure, a stage still running, a
  reconciled App) or hands over to the next stage.  `printTillCurrent_eq_walk`
  identifies the code with that walk; `walk_run` runs it.  What is left is how
  each stage is judged (§3): in WHOLE SECONDS for a failure, as INSTANTS for a
  stage still running, against the stage's own `StartedAt` for Fetch and Deploy
  and against Fetch's `StartedAt` (the run's start `r`) for Template, and by the
  `ReconcileSucceeded` condition for a deployed App.

  Main results:
    * `printTillCurrent_run` — on a status in pipeline order it never panics,
      never touches `stopperChan`, prints the walk's lines, returns its result.
    * `printTillCurrent_reports_stale_deploy_failure` — against spec §3 read with
      the run's start as a bound for every stage, it reports a Deploy failure of
      an earlier run.
    * `printTillCurrent_judges_stages` — the judgement it does make.
    * `printTillCurrent_error_message` — its error is `fmt.Errorf` of the
      failing stage's output; `printTillCurrent_rewrites_percent` shows the
      output is not kept verbatim, and `printTillCurrent_error_message_iff`
      that it is kept exactly when it holds no `%`.
    * `printTillCurrent_failure_shown` — the user sees the failed stage's
      `Stderr` under its last line, and it reads back exactly.
-/
import KappController.Kctrl.AppWatcher

namespace KappController.Kctrl

open KappController.Go

/-! ## §1. The walk. -/

/-- One stage as `printTillCurrent` handles it: the line it prints, and what the
    function returns right after (`none`: it goes on to the next stage). -/
structure StageStep where
  line : LogLine
  exit : Option (AppStage × Option GoError)

/-- The stage is reported failed: the function returns with a non-nil error. -/
def StageStep.failed (st : StageStep) : Bool := st.exit.any fun r => r.2.isSome

/-- Print each stage's line; return at the first stage that exits. -/
def walk : List StageStep → WatchM (AppStage × Option GoError)
  | [] => pure (.empty, none)
  | st :: rest => do
    printLogLine st.line.message st.line.messageBlock st.line.errorBlock st.line.startTime
    match st.exit with
    | some r => pure r
    | none => walk rest

/-- What the walk returns. -/
def walkResult : List StageStep → AppStage × Option GoError
  | [] => (.empty, none)
  | st :: rest => st.exit.getD (walkResult rest)

/-- The lines the walk prints: up to and including the first stage that exits. -/
def walkLines : List StageStep → List LogLine
  | [] => []
  | st :: rest => st.line :: if st.exit.isSome then [] else walkLines rest

/-- The walk only prints: it neither panics nor touches `stopperChan`. -/
theorem walk_run : ∀ (steps : List StageStep) (o : AppWatcher),
    (walk steps).run.run o =
      (.ok (walkResult steps), { o with printed := o.printed ++ walkLines steps })
  | [], o => by simp [walk, walkResult, walkLines]
  | st :: rest, o => by
    rcases h : st.exit with _ | r
    · have ih := walk_run rest { o with printed := o.printed ++ [st.line] }
      simp only [walk, h]
      show (walk rest).run.run { o with printed := o.printed ++ [st.line] } = _
      simp [ih, walkResult, walkLines, h]
    · simp only [walk, h, walkResult, walkLines]
      rfl

/-- A walk returns an error only at the first stage that exits, and only if
    that stage is reported failed. -/
theorem walkResult_error {stage : AppStage} {e : GoError} : ∀ {steps : List StageStep},
    walkResult steps = (stage, some e) →
      ∃ pre st post, steps = pre ++ st :: post ∧ (∀ p ∈ pre, p.exit = none) ∧
        st.failed ∧ st.exit = some (stage, some e)
  | [], h => by simp [walkResult] at h
  | st :: rest, h => by
    rcases hst : st.exit with _ | r
    · simp only [walkResult, hst, Option.getD_none] at h
      obtain ⟨pre, st', post, rfl, hpre, hf, hx⟩ := walkResult_error h
      exact ⟨st :: pre, st', post, rfl, by simpa [hst] using hpre, hf, hx⟩
    · simp only [walkResult, hst, Option.getD_some] at h
      subst h
      exact ⟨[], st, rest, rfl, by simp, by simp [StageStep.failed, hst], hst⟩

/-! ## §2. `printTillCurrent` is the walk over the stages present. -/

/-- The Fetch block of `printTillCurrent`. -/
def fetchStep (fetch : StageStatus) : StageStep :=
  if fetch.exitCode ≠ 0 ∧ fetch.startedAt.unix ≤ fetch.updatedAt.unix then
    ⟨⟨"Fetch failed", fetch.stderr, true, none⟩, some (.fetchStage, some (errorf fetch.stderr))⟩
  else if fetch.startedAt.after fetch.updatedAt then
    ⟨⟨"Fetch started", "", false, some fetch.startedAt⟩, some (.fetchStage, none)⟩
  else ⟨⟨"Fetch succeeded", fetch.stdout, false, some fetch.updatedAt⟩, none⟩

/-- The Template block, which reads the run's start from Fetch. -/
def templateStep (fetch template : StageStatus) : StageStep :=
  if template.exitCode ≠ 0 ∧ fetch.startedAt.unix < template.updatedAt.unix then
    ⟨⟨"Template failed", template.stderr, true, none⟩,
      some (.templateStage, some (errorf template.stderr))⟩
  else if fetch.startedAt.after template.updatedAt then
    ⟨⟨"Template started", "", false, none⟩, some (.templateStage, none)⟩
  else ⟨⟨"Template succeeded", "", false, some template.updatedAt⟩, none⟩

/-- The Deploy block, given whether the App has reconciled. -/
def deployStep (reconciled : Bool) (deploy : DeployStatus) : StageStep :=
  if deploy.exitCode ≠ 0 ∧ deploy.startedAt.unix < deploy.updatedAt.unix then
    ⟨⟨"Deploy failed", deploy.stderr, true, none⟩, some (.deployStage, some (errorf deploy.error))⟩
  else if reconciled then
    ⟨⟨"Deploy succeeded", deploy.stdout, false, some deploy.updatedAt⟩, some (.reconciled, none)⟩
  else ⟨⟨"Deploy started", deploy.stdout, false, some deploy.startedAt⟩, none⟩

/-- The stages present, in pipeline order. -/
def tillCurrentSteps (s : AppStatus) : List StageStep :=
  match s.fetch, s.template, s.deploy with
  | some f, some t, some d => [fetchStep f, templateStep f t, deployStep (hasReconciled s) d]
  | some f, some t, none => [fetchStep f, templateStep f t]
  | some f, none, _ => [fetchStep f]
  | none, _, _ => []

/-- A step whose line and exit depend on a test walks as the test's branches. -/
theorem walk_ite_cons (c : Prop) [Decidable c] (a b : StageStep) (rest : List StageStep) :
    walk ((if c then a else b) :: rest) = if c then walk (a :: rest) else walk (b :: rest) := by
  split <;> rfl

theorem walk_cons_some (l : LogLine) (r : AppStage × Option GoError) (rest : List StageStep) :
    walk (⟨l, some r⟩ :: rest) =
      (printLogLine l.message l.messageBlock l.errorBlock l.startTime >>= fun _ => pure r) := rfl

theorem walk_cons_none (l : LogLine) (rest : List StageStep) :
    walk (⟨l, none⟩ :: rest) =
      (printLogLine l.message l.messageBlock l.errorBlock l.startTime >>= fun _ => walk rest) := rfl

/-- On a status in pipeline order, `printTillCurrent` IS the walk. -/
theorem printTillCurrent_eq_walk (s : AppStatus) (h : PipelineOrdered s) :
    printTillCurrent s = walk (tillCurrentSteps s) := by
  obtain ⟨h1, h2⟩ := h
  rcases s with ⟨g, f, t, d, a, b⟩
  cases f <;> cases t <;> cases d <;> simp at h1 h2 <;>
    simp only [printTillCurrent, tillCurrentSteps, fetchStep, templateStep, deployStep, deref,
      pure_bind, walk_ite_cons, walk_cons_some, walk_cons_none] <;> rfl

/-- On a status in pipeline order `printTillCurrent` only prints: no nil stage is
    read, `stopperChan` is left alone, and the walk's lines are printed. -/
theorem printTillCurrent_run (s : AppStatus) (h : PipelineOrdered s) (o : AppWatcher) :
    (printTillCurrent s).run.run o =
      (.ok (walkResult (tillCurrentSteps s)),
        { o with printed := o.printed ++ walkLines (tillCurrentSteps s) }) := by
  rw [printTillCurrent_eq_walk s h, walk_run]

/-! ## §3. How each stage is judged. -/

/-- Fetch goes on exactly when spec §3 calls it succeeded: exit code 0 and
    `UpdatedAt` not earlier than `StartedAt`. -/
theorem fetchStep_exit_eq_none_iff (f : StageStatus) :
    (fetchStep f).exit = none ↔ f.exitCode = 0 ∧ f.startedAt.nanos ≤ f.updatedAt.nanos := by
  unfold fetchStep Time.after Time.unix
  split_ifs <;> simp only [decide_eq_true_eq, reduceCtorEq, true_iff, false_iff] at * <;> omega

/-- A Fetch failure is judged in whole seconds, against Fetch's own start. -/
theorem fetchStep_failed_iff (f : StageStatus) :
    (fetchStep f).failed ↔ f.exitCode ≠ 0 ∧ f.startedAt.unix ≤ f.updatedAt.unix := by
  unfold fetchStep
  split_ifs <;> simp_all [StageStep.failed]

/-- Template goes on only once it was updated in this run. -/
theorem templateStep_exit_eq_none {f t : StageStatus} (h : (templateStep f t).exit = none) :
    f.startedAt.nanos ≤ t.updatedAt.nanos := by
  unfold templateStep Time.after at h
  split_ifs at h with h1 h2
  exact Int.not_lt.mp (by simpa using h2)

/-- With exit code 0, Template goes on exactly when it was updated in this run. -/
theorem templateStep_exit_eq_none_iff {f t : StageStatus} (h0 : t.exitCode = 0) :
    (templateStep f t).exit = none ↔ f.startedAt.nanos ≤ t.updatedAt.nanos := by
  unfold templateStep Time.after Time.unix
  split_ifs <;> simp only [decide_eq_true_eq, reduceCtorEq, true_iff, false_iff] at * <;> omega

/-- A Template failure is reported only for a non-zero exit code, updated no
    earlier in whole seconds than the run's start... -/
theorem templateStep_failed_le {f t : StageStatus} (h : (templateStep f t).failed) :
    t.exitCode ≠ 0 ∧ f.startedAt.unix ≤ t.updatedAt.unix := by
  unfold templateStep at h
  split_ifs at h with h1 <;> simp_all [StageStep.failed]
  omega

/-- ... and always when it was updated in a later second. -/
theorem templateStep_failed_of_lt {f t : StageStatus}
    (h : t.exitCode ≠ 0 ∧ f.startedAt.unix < t.updatedAt.unix) : (templateStep f t).failed := by
  simp [templateStep, h, StageStep.failed]

/-- A Deploy failure is reported only for a non-zero exit code, updated no
    earlier in whole seconds than Deploy's start... -/
theorem deployStep_failed_le {r : Bool} {d : DeployStatus} (h : (deployStep r d).failed) :
    d.exitCode ≠ 0 ∧ d.startedAt.unix ≤ d.updatedAt.unix := by
  unfold deployStep at h
  split_ifs at h with h1 <;> simp_all [StageStep.failed]
  omega

/-- ... and always when it was updated in a later second. -/
theorem deployStep_failed_of_lt {r : Bool} {d : DeployStatus}
    (h : d.exitCode ≠ 0 ∧ d.startedAt.unix < d.updatedAt.unix) : (deployStep r d).failed := by
  simp [deployStep, h, StageStep.failed]

/-- A deployed App counts as reconciled by its condition, not by Deploy's exit
    code or timestamps. -/
theorem deployStep_reconciled_iff (r : Bool) (d : DeployStatus) :
    (deployStep r d).exit = some (.reconciled, none) ↔ ¬(deployStep r d).failed ∧ r = true := by
  unfold deployStep
  split_ifs <;> simp_all [StageStep.failed]

/-! ## §4. Against spec §3 with the run's start as every stage's bound. -/

/-- A stage's state in spec §3's terms. -/
inductive StageState where
  | failed
  | succeeded
  | inProgress
  deriving DecidableEq, Repr

/-- Spec §3 with exact instants and the run's start `r` as a bound for every
    stage: a stage is current when its `UpdatedAt` is not earlier than `r` nor
    than its own `StartedAt` (`ownStart`, for Fetch and Deploy); a current stage
    is failed or succeeded by its exit code, any other is in progress. -/
def specStageState (r : Time) (ownStart : Option Time) (exitCode : Int) (updatedAt : Time) :
    StageState :=
  if r.nanos ≤ updatedAt.nanos ∧ ownStart.all (fun t => decide (t.nanos ≤ updatedAt.nanos)) then
    if exitCode ≠ 0 then .failed else .succeeded
  else .inProgress

/-- The stages present, in pipeline order, with their spec §3 states. -/
def specStages (s : AppStatus) : List (AppStage × StageState) :=
  match s.fetch with
  | none => []
  | some f =>
    (.fetchStage, specStageState f.startedAt (some f.startedAt) f.exitCode f.updatedAt) ::
      ((s.template.map fun t =>
          (.templateStage, specStageState f.startedAt none t.exitCode t.updatedAt)).toList ++
        (s.deploy.map fun d =>
          (.deployStage, specStageState f.startedAt (some d.startedAt) d.exitCode d.updatedAt)).toList)

/-- The first stage present that is not succeeded. -/
def firstUnsucceeded (stages : List (AppStage × StageState)) : Option (AppStage × StageState) :=
  stages.find? fun x => x.2 != .succeeded

/-- The error half of reading `printTillCurrent` against `specStages`: an error
    exactly when the first stage not succeeded is failed, at that stage. -/
def ReportsSpecFailures (s : AppStatus) : Prop :=
  match walkResult (tillCurrentSteps s) with
  | (stage, some _) => firstUnsucceeded (specStages s) = some (stage, .failed)
  | (_, none) => ∀ stage, firstUnsucceeded (specStages s) ≠ some (stage, .failed)

/-- A new run whose Fetch and Template are done while Deploy still holds the
    failure of the run before (deployed at 2 s, failed at 3 s; the new run
    started at 10 s). -/
def staleDeployStatus : AppStatus :=
  { conditions := [], friendlyDescription := "",
    fetch := some ⟨0, ⟨10000000000⟩, ⟨11000000000⟩, "", ""⟩,
    template := some ⟨0, ⟨0⟩, ⟨12000000000⟩, "", ""⟩,
    deploy := some ⟨⟨1, ⟨2000000000⟩, ⟨3000000000⟩, "", "kapp: Error"⟩, true, "kapp: Error"⟩,
    consecutiveReconcileSuccesses := 0, consecutiveReconcileFailures := 1 }

/-- `printTillCurrent` reports the earlier run's Deploy failure, while against
    the run's start Deploy is still in progress. -/
theorem printTillCurrent_reports_stale_deploy_failure :
    PipelineOrdered staleDeployStatus ∧ ¬ReportsSpecFailures staleDeployStatus := by
  have hres : walkResult (tillCurrentSteps staleDeployStatus) =
      (.deployStage, some (errorf "kapp: Error")) := by decide
  refine ⟨by decide, fun h => ?_⟩
  simp only [ReportsSpecFailures, hres] at h
  exact absurd h (by decide)

/-- How `printTillCurrent` judges the stages of a status in pipeline order: it is
    the walk over them (§1), Fetch goes on exactly when spec §3 calls it
    succeeded, Template goes on only once updated in this run, failures are
    judged in whole seconds against the stage's own start (the run's start for
    Template) with the same second left to the comparison each check makes, and
    a deployed App is reconciled by its condition. -/
theorem printTillCurrent_judges_stages (s : AppStatus) (h : PipelineOrdered s) (o : AppWatcher) :
    (printTillCurrent s).run.run o =
        (.ok (walkResult (tillCurrentSteps s)),
          { o with printed := o.printed ++ walkLines (tillCurrentSteps s) }) ∧
    (∀ f : StageStatus,
      ((fetchStep f).exit = none ↔ f.exitCode = 0 ∧ f.startedAt.nanos ≤ f.updatedAt.nanos) ∧
      ((fetchStep f).failed ↔ f.exitCode ≠ 0 ∧ f.startedAt.unix ≤ f.updatedAt.unix)) ∧
    (∀ f t : StageStatus,
      ((templateStep f t).exit = none → f.startedAt.nanos ≤ t.updatedAt.nanos) ∧
      ((templateStep f t).failed → t.exitCode ≠ 0 ∧ f.startedAt.unix ≤ t.updatedAt.unix) ∧
      (t.exitCode ≠ 0 ∧ f.startedAt.unix < t.updatedAt.unix → (templateStep f t).failed)) ∧
    (∀ (r : Bool) (d : DeployStatus),
      ((deployStep r d).failed → d.exitCode ≠ 0 ∧ d.startedAt.unix ≤ d.updatedAt.unix) ∧
      (d.exitCode ≠ 0 ∧ d.startedAt.unix < d.updatedAt.unix → (deployStep r d).failed) ∧
      ((deployStep r d).exit = some (.reconciled, none) ↔ ¬(deployStep r d).failed ∧ r = true)) :=
  ⟨printTillCurrent_run s h o,
    fun f => ⟨fetchStep_exit_eq_none_iff f, fetchStep_failed_iff f⟩,
    fun _ _ => ⟨templateStep_exit_eq_none, templateStep_failed_le, templateStep_failed_of_lt⟩,
    fun r d => ⟨deployStep_failed_le, deployStep_failed_of_lt, deployStep_reconciled_iff r d⟩⟩

/-- The judgement at the stale Deploy failure. -/
theorem printTillCurrent_judges_staleDeployStatus :
    PipelineOrdered staleDeployStatus ∧
      (printTillCurrent staleDeployStatus).run.run ⟨[], false⟩ =
        (.ok (walkResult (tillCurrentSteps staleDeployStatus)),
          ⟨walkLines (tillCurrentSteps staleDeployStatus), false⟩) :=
  ⟨by decide, (printTillCurrent_judges_stages staleDeployStatus (by decide) ⟨[], false⟩).1⟩

/-! ## §5. The error text. -/

/-- Each stage present is one of the three blocks. -/
theorem mem_tillCurrentSteps {s : AppStatus} {st : StageStep} (h : st ∈ tillCurrentSteps s) :
    (∃ f, s.fetch = some f ∧ st = fetchStep f) ∨
    (∃ f t, s.fetch = some f ∧ s.template = some t ∧ st = templateStep f t) ∨
    (∃ d, s.deploy = some d ∧ st = deployStep (hasReconciled s) d) := by
  unfold tillCurrentSteps at h
  split at h <;> simp_all

theorem fetchStep_exit_error {f : StageStatus} {stage : AppStage} {e : GoError}
    (h : (fetchStep f).exit = some (stage, some e)) : stage = .fetchStage ∧ e = errorf f.stderr := by
  unfold fetchStep at h
  split_ifs at h <;> simp_all

theorem templateStep_exit_error {f t : StageStatus} {stage : AppStage} {e : GoError}
    (h : (templateStep f t).exit = some (stage, some e)) :
    stage = .templateStage ∧ e = errorf t.stderr := by
  unfold templateStep at h
  split_ifs at h <;> simp_all

theorem deployStep_exit_error {r : Bool} {d : DeployStatus} {stage : AppStage} {e : GoError}
    (h : (deployStep r d).exit = some (stage, some e)) : stage = .deployStage ∧ e = errorf d.error := by
  unfold deployStep at h
  split_ifs at h <;> simp_all

/-- The error `printTillCurrent` returns is `fmt.Errorf` with the failing stage's
    output as the FORMAT: Fetch's or Template's `Stderr`, Deploy's `Error`. -/
theorem printTillCurrent_error_message (s : AppStatus) (h : PipelineOrdered s) (o : AppWatcher)
    {stage : AppStage} {e : GoError}
    (he : ((printTillCurrent s).run.run o).1 = .ok (stage, some e)) :
    (∃ f, s.fetch = some f ∧ stage = .fetchStage ∧ e = errorf f.stderr) ∨
    (∃ t, s.template = some t ∧ stage = .templateStage ∧ e = errorf t.stderr) ∨
    (∃ d, s.deploy = some d ∧ stage = .deployStage ∧ e = errorf d.error) := by
  rw [printTillCurrent_run s h o] at he
  obtain ⟨pre, st, post, hsteps, -, -, hst⟩ := walkResult_error (Except.ok.inj he)
  rcases mem_tillCurrentSteps (hsteps ▸ List.mem_append_right pre (List.mem_cons_self st post))
    with ⟨f, hf, rfl⟩ | ⟨f, t, -, ht, rfl⟩ | ⟨d, hd, rfl⟩
  · exact .inl ⟨f, hf, fetchStep_exit_error hst⟩
  · exact .inr (.inl ⟨t, ht, templateStep_exit_error hst⟩)
  · exact .inr (.inr ⟨d, hd, deployStep_exit_error hst⟩)

/-- So the output survives verbatim whenever it holds no `%`. -/
theorem printTillCurrent_error_verbatim (s : AppStatus) (h : PipelineOrdered s) (o : AppWatcher)
    {stage : AppStage} {e : GoError}
    (he : ((printTillCurrent s).run.run o).1 = .ok (stage, some e)) :
    (∃ f, s.fetch = some f ∧ stage = .fetchStage ∧ ('%' ∉ f.stderr.data → e.message = f.stderr)) ∨
    (∃ t, s.template = some t ∧ stage = .templateStage ∧
      ('%' ∉ t.stderr.data → e.message = t.stderr)) ∨
    (∃ d, s.deploy = some d ∧ stage = .deployStage ∧ ('%' ∉ d.error.data → e.message = d.error)) := by
  rcases printTillCurrent_error_message s h o he with
    ⟨f, hf, hs, rfl⟩ | ⟨t, ht, hs, rfl⟩ | ⟨d, hd, hs, rfl⟩
  · exact .inl ⟨f, hf, hs, errorf_message_of_percent_free _⟩
  · exact .inr (.inl ⟨t, ht, hs, errorf_message_of_percent_free _⟩)
  · exact .inr (.inr ⟨d, hd, hs, errorf_message_of_percent_free _⟩)

/-- The verbatim text at the stale Deploy failure. -/
theorem printTillCurrent_error_verbatim_staleDeployStatus :
    PipelineOrdered staleDeployStatus ∧
      ((printTillCurrent staleDeployStatus).run.run ⟨[], false⟩).1 =
        .ok (.deployStage, some (errorf "kapp: Error")) ∧
      ((∃ f, staleDeployStatus.fetch = some f ∧ AppStage.deployStage = .fetchStage ∧
          ('%' ∉ f.stderr.data → (errorf "kapp: Error").message = f.stderr)) ∨
        (∃ t, staleDeployStatus.template = some t ∧ AppStage.deployStage = .templateStage ∧
          ('%' ∉ t.stderr.data → (errorf "kapp: Error").message = t.stderr)) ∨
        (∃ d, staleDeployStatus.deploy = some d ∧ AppStage.deployStage = .deployStage ∧
          ('%' ∉ d.error.data → (errorf "kapp: Error").message = d.error))) :=
  ⟨by decide, rfl, printTillCurrent_error_verbatim staleDeployStatus (by decide) ⟨[], false⟩ rfl⟩

/-- A Fetch failure whose output ends in a percent sign. -/
def percentStderrStatus : AppStatus :=
  { conditions := [], friendlyDescription := "",
    fetch := some ⟨1, ⟨0⟩, ⟨0⟩, "", "progress 100%"⟩, template := none, deploy := none,
    consecutiveReconcileSuccesses := 0, consecutiveReconcileFailures := 1 }

/-- Its error is not the output: Go reads the trailing `%` as a verb. -/
theorem printTillCurrent_rewrites_percent :
    ((printTillCurrent percentStderrStatus).run.run ⟨[], false⟩).1 =
      .ok (.fetchStage, some ⟨"progress 100%!(NOVERB)"⟩) := by
  rfl

/-- The error's text is the failing stage's output EXACTLY when that output
    holds no `%`: a `%` anywhere in it changes the text. -/
theorem printTillCurrent_error_message_iff (s : AppStatus) (h : PipelineOrdered s) (o : AppWatcher)
    {stage : AppStage} {e : GoError}
    (he : ((printTillCurrent s).run.run o).1 = .ok (stage, some e)) :
    (∃ f, s.fetch = some f ∧ stage = .fetchStage ∧ (e.message = f.stderr ↔ '%' ∉ f.stderr.data)) ∨
    (∃ t, s.template = some t ∧ stage = .templateStage ∧
      (e.message = t.stderr ↔ '%' ∉ t.stderr.data)) ∨
    (∃ d, s.deploy = some d ∧ stage = .deployStage ∧ (e.message = d.error ↔ '%' ∉ d.error.data)) := by
  rcases printTillCurrent_error_message s h o he with
    ⟨f, hf, hs, rfl⟩ | ⟨t, ht, hs, rfl⟩ | ⟨d, hd, hs, rfl⟩
  · exact .inl ⟨f, hf, hs, errorf_message_eq_iff _⟩
  · exact .inr (.inl ⟨t, ht, hs, errorf_message_eq_iff _⟩)
  · exact .inr (.inr ⟨d, hd, hs, errorf_message_eq_iff _⟩)

/-- At the Fetch failure whose output ends in `%`. -/
theorem printTillCurrent_error_message_iff_percentStderrStatus :
    PipelineOrdered percentStderrStatus ∧
      ((printTillCurrent percentStderrStatus).run.run ⟨[], false⟩).1 =
        .ok (.fetchStage, some (errorf "progress 100%")) ∧
      ((∃ f, percentStderrStatus.fetch = some f ∧ AppStage.fetchStage = .fetchStage ∧
          ((errorf "progress 100%").message = f.stderr ↔ '%' ∉ f.stderr.data)) ∨
        (∃ t, percentStderrStatus.template = some t ∧ AppStage.fetchStage = .templateStage ∧
          ((errorf "progress 100%").message = t.stderr ↔ '%' ∉ t.stderr.data)) ∨
        (∃ d, percentStderrStatus.deploy = some d ∧ AppStage.fetchStage = .deployStage ∧
          ((errorf "progress 100%").message = d.error ↔ '%' ∉ d.error.data))) :=
  ⟨by decide, rfl,
    printTillCurrent_error_message_iff percentStderrStatus (by decide) ⟨[], false⟩ rfl⟩

/-! ## §6. What the user sees of a failure. -/

/-- The line `printTillCurrent` prints for a stage it reports failed: the
    stage's "failed" message, with its `Stderr` as an error block. -/
def failureLine (s : AppStatus) : AppStage → Option LogLine
  | .fetchStage => s.fetch.map fun f => ⟨"Fetch failed", f.stderr, true, none⟩
  | .templateStage => s.template.map fun t => ⟨"Template failed", t.stderr, true, none⟩
  | .deployStage => s.deploy.map fun d => ⟨"Deploy failed", d.stderr, true, none⟩
  | _ => none

/-- Every block printed reads back to the line's block. -/
theorem unindent_printedBlock (noColor : Bool) : ∀ l : LogLine,
    unindentMessageBlock noColor l.errorBlock (l.printedBlock noColor) = l.messageBlock
  | ⟨_, ⟨block⟩, errored, _⟩ => by
    unfold LogLine.printedBlock
    split
    · exact unindentMessageBlock_indentMessageBlock noColor errored ⟨block⟩
    · obtain rfl : block = [] := List.length_eq_zero.mp (Nat.eq_zero_of_not_pos ‹_›)
      cases noColor <;> cases errored <;> rfl

/-- The walk's lines end with the line of the stage it stops at. -/
theorem walkLines_append {pre post : List StageStep} {st : StageStep}
    (hpre : ∀ p ∈ pre, p.exit = none) (hst : st.exit.isSome) :
    walkLines (pre ++ st :: post) = pre.map (·.line) ++ [st.line] := by
  induction pre with
  | nil => simp [walkLines, hst]
  | cons p pre ih =>
    simp [walkLines, hpre p (List.mem_cons_self _ _),
      ih fun q hq => hpre q (List.mem_cons_of_mem _ hq)]

theorem fetchStep_failed_line {f : StageStatus} (h : (fetchStep f).failed) :
    (fetchStep f).line = ⟨"Fetch failed", f.stderr, true, none⟩ := by
  unfold fetchStep at h ⊢
  split_ifs at h ⊢ <;> simp_all [StageStep.failed]

theorem templateStep_failed_line {f t : StageStatus} (h : (templateStep f t).failed) :
    (templateStep f t).line = ⟨"Template failed", t.stderr, true, none⟩ := by
  unfold templateStep at h ⊢
  split_ifs at h ⊢ <;> simp_all [StageStep.failed]

theorem deployStep_failed_line {r : Bool} {d : DeployStatus} (h : (deployStep r d).failed) :
    (deployStep r d).line = ⟨"Deploy failed", d.stderr, true, none⟩ := by
  unfold deployStep at h ⊢
  split_ifs at h ⊢ <;> simp_all [StageStep.failed]

theorem errorBlock_of_failureLine {s : AppStatus} {stage : AppStage} {l : LogLine}
    (h : failureLine s stage = some l) : l.errorBlock = true := by
  cases stage <;> simp only [failureLine, Option.map_eq_some', reduceCtorEq] at h <;>
    obtain ⟨_, -, rfl⟩ := h <;> rfl

/-- A stage reported failed prints its failure line. -/
theorem failureLine_of_failed {s : AppStatus} {st : StageStep} {stage : AppStage} {e : GoError}
    (hmem : st ∈ tillCurrentSteps s) (hf : st.failed) (hx : st.exit = some (stage, some e)) :
    failureLine s stage = some st.line := by
  rcases mem_tillCurrentSteps hmem with ⟨f, hfs, rfl⟩ | ⟨f, t, -, hts, rfl⟩ | ⟨d, hds, rfl⟩
  · rw [(fetchStep_exit_error hx).1, fetchStep_failed_line hf, failureLine, hfs]
    rfl
  · rw [(templateStep_exit_error hx).1, templateStep_failed_line hf, failureLine, hts]
    rfl
  · rw [(deployStep_exit_error hx).1, deployStep_failed_line hf, failureLine, hds]
    rfl

/-- What the user sees when `printTillCurrent` reports a failure: the last line
    printed is the failed stage's "failed" line, and the block printed under it
    reads back, as an error block, to that stage's `Stderr`. -/
theorem printTillCurrent_failure_shown (noColor : Bool) (s : AppStatus) (h : PipelineOrdered s)
    (o : AppWatcher) {stage : AppStage} {e : GoError}
    (he : ((printTillCurrent s).run.run o).1 = .ok (stage, some e)) :
    ∃ l, failureLine s stage = some l ∧
      ((printTillCurrent s).run.run o).2.printed.getLast? = some l ∧
      unindentMessageBlock noColor true (l.printedBlock noColor) = l.messageBlock := by
  rw [printTillCurrent_run s h o] at he ⊢
  obtain ⟨pre, st, post, hsteps, hpre, hf, hx⟩ := walkResult_error (Except.ok.inj he)
  have hmem : st ∈ tillCurrentSteps s := hsteps ▸ List.mem_append_right _ (List.mem_cons_self _ _)
  have hline := failureLine_of_failed hmem hf hx
  refine ⟨st.line, hline, ?_, errorBlock_of_failureLine hline ▸ unindent_printedBlock noColor st.line⟩
  rw [hsteps, walkLines_append hpre (by rw [hx]; rfl)]
  simp

/-- The failure at the stale Deploy status, as the user sees it. -/
theorem printTillCurrent_failure_shown_staleDeployStatus :
    PipelineOrdered staleDeployStatus ∧
      ((printTillCurrent staleDeployStatus).run.run ⟨[], false⟩).1 =
        .ok (.deployStage, some (errorf "kapp: Error")) ∧
      ∃ l, failureLine staleDeployStatus .deployStage = some l ∧
        ((printTillCurrent staleDeployStatus).run.run ⟨[], false⟩).2.printed.getLast? = some l ∧
        unindentMessageBlock false true (l.printedBlock false) = l.messageBlock :=
  ⟨by decide, rfl,
    printTillCurrent_failure_shown false staleDeployStatus (by decide) ⟨[], false⟩ rfl⟩

end KappController.Kctrl
