import TaskEngine.Proofs.Engine.Changes

/-!
# Steps of a session

Whatever happens in a session, the stores take one of three steps: statuses of jobs are read, a
mutation makes one change, or a launch makes a job with its pod and may then wait for it. What every
such step keeps holds all along a session.
-/

namespace TaskEngine

open Engine

/-! ## Launches -/

/-- A job of a task that is held was made under a free name, with its pod. -/
structure Stores.Launched (s t : Stores) (task owner : String) (jobSuffix podSuffix : NameSuffix) :
    Prop where
  held : s.HoldsTask task
  catalog : t.catalog = s.catalog
  secrets : t.secrets = s.secrets
  cronJobs : t.workloads.cronJobs = s.workloads.cronJobs
  deployments : t.workloads.deployments = s.workloads.deployments
  /-- The name was free. -/
  free : s.workloads.jobs.get? (task ++ "-" ++ jobSuffix.text) = none
  /-- The job carries the labels of the launch. -/
  jobs : ∃ made : SimulatedJob,
    t.workloads.jobs = s.workloads.jobs.insert (task ++ "-" ++ jobSuffix.text) made ∧
      made.job.metadata.name = some (task ++ "-" ++ jobSuffix.text) ∧
      made.job.metadata.labels = some (Label.ofWorkload owner task)
  /-- The pod carries them too, and the name of the job. -/
  pods : ∃ pod : Cluster.Pod,
    t.workloads.pods =
      s.workloads.pods.insert (task ++ "-" ++ jobSuffix.text ++ "-" ++ podSuffix.text) pod ∧
      pod.metadata.labels = some
        ((Label.ofWorkload owner task).insert Label.job (task ++ "-" ++ jobSuffix.text))

namespace World

variable {w : World}

/-- Submitting the job of a launch under a free name makes it. -/
theorem run_createJob_of_free (config : EngineConfig) (launch : Workload)
    (hworks : (WorkloadCall.createJob (launch.job config)).name ∉ w.failing) {id : String}
    (hid : id = launch.task.name ++ "-" ++ (w.workloads.jobSuffix w.workloads.nextNumber).text)
    (hfree : w.workloads.jobs.get? id = none) :
    w.run (Procedure.workloads (.createJob (launch.job config))) =
      (.ok (w.workloads.made (Instant.ofMillis w.now) (launch.job config) id).job,
        { w with workloads :=
          w.workloads.withJob (Instant.ofMillis w.now) (launch.job config) id }) := by
  have hname : w.workloads.jobName (launch.job config).metadata = .ok id := by
    rw [hid]
    rfl
  have hcreate := w.workloads.createJob_eq (Instant.ofMillis w.now) (launch.job config)
  rw [hname, Outcome.ok_bind, Dict.contains_eq_false_iff.mpr hfree] at hcreate
  rw [run_workloads_of_not_mem _ hworks]
  simp only [Simulator.answer, hcreate]
  rfl

/-- Submitting the job of a launch fails and changes nothing, or makes it under a free name. -/
theorem run_createJob_cases (w : World) (config : EngineConfig) (launch : Workload) :
    (∃ e, w.run (Procedure.workloads (.createJob (launch.job config))) = (.error e, w)) ∨
      ∃ id, id = launch.task.name ++ "-" ++ (w.workloads.jobSuffix w.workloads.nextNumber).text ∧
        w.workloads.jobs.get? id = none ∧
        w.run (Procedure.workloads (.createJob (launch.job config))) =
          (.ok (w.workloads.made (Instant.ofMillis w.now) (launch.job config) id).job,
            { w with workloads :=
              w.workloads.withJob (Instant.ofMillis w.now) (launch.job config) id }) := by
  let id := launch.task.name ++ "-" ++ (w.workloads.jobSuffix w.workloads.nextNumber).text
  by_cases hworks : (WorkloadCall.createJob (launch.job config)).name ∈ w.failing
  · exact .inl ⟨_, run_workloads_of_mem _ hworks⟩
  cases htaken : w.workloads.jobs.contains id with
  | false =>
    have hfree := Dict.contains_eq_false_iff.mp htaken
    exact .inr ⟨id, rfl, hfree, run_createJob_of_free config launch hworks rfl hfree⟩
  | true =>
    have hcreate := w.workloads.createJob_eq (Instant.ofMillis w.now) (launch.job config)
    have hname : w.workloads.jobName (launch.job config).metadata = .ok id := rfl
    rw [hname, Outcome.ok_bind, htaken] at hcreate
    rw [run_workloads_of_not_mem _ hworks]
    simp only [Simulator.answer, hcreate]
    exact .inl ⟨_, rfl⟩

/-- The stores once the job of a launch was made under a name. -/
def withLaunch (w : World) (config : EngineConfig) (launch : Workload) (id : String) : Stores :=
  { w.stores with workloads :=
    w.workloads.withJob (Instant.ofMillis w.now) (launch.job config) id }

/-- Making the job of a launch under a free name leaves everything else as it was. -/
theorem launched_withLaunch (config : EngineConfig) {launch : Workload}
    (hheld : w.stores.HoldsTask launch.task.name) {id : String}
    (hid : id = launch.task.name ++ "-" ++ (w.workloads.jobSuffix w.workloads.nextNumber).text)
    (hfree : w.workloads.jobs.get? id = none) :
    w.stores.Launched (w.withLaunch config launch id) launch.task.name launch.owner
      (w.workloads.jobSuffix w.workloads.nextNumber)
      (w.workloads.podSuffix w.workloads.nextNumber) := by
  subst hid
  exact {
    held := hheld
    catalog := rfl
    secrets := rfl
    cronJobs := rfl
    deployments := rfl
    free := hfree
    jobs := ⟨w.workloads.made (Instant.ofMillis w.now) (launch.job config) _, rfl,
      Simulator.name_made .., congrArg (·.1.labels) (SimulatedJob.fixed_advance ..)⟩
    pods := ⟨_, rfl, rfl⟩ }

/-- What a launch does after its job was submitted only looks. -/
theorem onlyLooks_afterLaunch (config : EngineConfig) (ready : Preparation) (owner : String)
    (created : Cluster.Job) : Procedure.OnlyLooks (do
      let id := created.metadata.name.getD ""
      Procedure.count (.launched (if ready.task.synchronous then .sync else .async))
      if ready.task.synchronous then
        let waited ← waitMeasured config.syncPoll id
        let result ← assemble waited.job (some owner)
        return ({ id, result := some result } : JobLaunch)
      else return { id, result := none }) := by
  refine (onlyLooks_count _).bind fun _ => ?_
  split
  · exact (onlyLooks_waitMeasured _ _).bind fun waited => (onlyLooks_assemble _ _).bind fun _ =>
      trivial
  · trivial

/-- A launch only looks, or it makes the job of its task under a free name and only looks from then
on. -/
theorem run_launch (h : w.StoresHold) (config : EngineConfig) (taskName owner : String)
    (vars : Option String) :
    w.stores.Polled (w.run (launch config taskName owner vars)).2.stores ∨
      ∃ (workload : Workload) (id : String), w.stores.HoldsTask workload.task.name ∧
        id = workload.task.name ++ "-" ++ (w.workloads.jobSuffix w.workloads.nextNumber).text ∧
        w.workloads.jobs.get? id = none ∧
        (w.withLaunch config workload id).Polled
          (w.run (launch config taskName owner vars)).2.stores := by
  obtain ⟨metrics, hprepare⟩ := run_prepare h taskName vars
  cases hready : w.prepared taskName vars with
  | error e =>
    rw [hready] at hprepare
    rw [launch, run_bind_of_error hprepare]
    exact .inl (.refl _)
  | ok ready =>
    rw [hready] at hprepare
    obtain ⟨hname, hheld⟩ := holdsTask_of_prepared hready
    rw [launch, run_bind_of_ok hprepare]
    rcases run_createJob_cases { w with metrics } config (ready.workload owner) with
      ⟨e, hrun⟩ | ⟨id, hid, hfree, hrun⟩
    · rw [run_bind_of_error hrun]
      exact .inl (.refl _)
    · rw [run_bind_of_ok hrun]
      refine .inr ⟨ready.workload owner, id, hname ▸ hheld, hid, hfree, ?_⟩
      exact polled_run (w := { w with
          metrics
          workloads := w.workloads.withJob (Instant.ofMillis w.now)
            ((ready.workload owner).job config) id })
        (onlyLooks_afterLaunch config ready owner _)

/-! ## Calls and events -/

/-- A call that is neither a mutation nor a launch only looks. -/
theorem onlyLooks_call (config : EngineConfig) {call : ServiceCall} (h : call.target? = none)
    (hlaunch : ∀ principal taskName vars, call ≠ .createJob principal taskName vars) :
    (call.procedure config).OnlyLooks := by
  cases call <;> try cases h
  case listRunners scope => exact (onlyLooks_listRunners scope).map _
  case getRunner name => exact (onlyLooks_getRunner name).map _
  case listTasks scope => exact (onlyLooks_listTasks scope).map _
  case getTask name => exact (onlyLooks_getTask name).map _
  case getSchema name => exact (onlyLooks_getSchema name).map _
  case getSecret name => exact (onlyLooks_getSecret name).map _
  case listJobs scope => exact (onlyLooks_listJobs scope).map _
  case createJob principal taskName vars => exact absurd rfl (hlaunch principal taskName vars)
  case getJob id owner => exact (onlyLooks_getJob id owner).map _
  case getJobLog id owner => exact (onlyLooks_getJobLog id owner).map _
  case getJobData id owner => exact (onlyLooks_getJobData id owner).map _
  case listCronJobs scope => exact (onlyLooks_listCronJobs scope).map _
  case getCronJob name => exact (onlyLooks_getCronJob name).map _
  case listDeployments scope => exact (onlyLooks_listDeployments scope).map _
  case getDeployment name => exact (onlyLooks_getDeployment name).map _

end World

/-- What a call of the service can make of the stores. -/
inductive World.Moves (w : World) (config : EngineConfig) (t : Stores) : Prop
  /-- It looks. -/
  | polled (h : w.stores.Polled t)
  /-- It changes its target. -/
  | changed (target : Target) (h : w.stores.Change target t)
  /-- It makes the job of a task under a free name, and may then wait for it. -/
  | launched (workload : Workload) (id : String) (held : w.stores.HoldsTask workload.task.name)
    (named : id =
      workload.task.name ++ "-" ++ (w.workloads.jobSuffix w.workloads.nextNumber).text)
    (free : w.workloads.jobs.get? id = none)
    (polled : (w.withLaunch config workload id).Polled t)

/-- What can become of the stores at once. -/
inductive Stores.Step (s t : Stores) : Prop
  /-- Nothing, or statuses of jobs were read. -/
  | polled (h : s.Polled t)
  /-- A target was changed. -/
  | changed (target : Target) (h : s.Change target t)
  /-- A job was made, and its status read from then on. -/
  | launched (made : Stores) (task owner : String) (jobSuffix podSuffix : NameSuffix)
    (h : s.Launched made task owner jobSuffix podSuffix) (polled : made.Polled t)

namespace World

variable {w : World}

/-- A call looks, changes its target or makes a job. -/
theorem moves_call (h : w.StoresHold) (config : EngineConfig) (call : ServiceCall) :
    w.Moves config (w.run (call.procedure config)).2.stores := by
  cases htarget : call.target? with
  | some target =>
    rcases settles_call h config htarget with hsame | ⟨hchange, -⟩
    · rw [hsame]
      exact .polled (.refl _)
    · exact .changed target hchange
  | none =>
    by_cases hlaunch : ∃ principal taskName vars, call = .createJob principal taskName vars
    · obtain ⟨principal, taskName, vars, rfl⟩ := hlaunch
      have hrun :
          (w.run ((ServiceCall.createJob principal taskName vars).procedure config)).2.stores =
            (w.run (launch config taskName principal.name vars)).2.stores := by
        simp only [ServiceCall.procedure, createJob, run_map, run_audited]
        rfl
      rw [hrun]
      rcases run_launch h config taskName principal.name vars with
        hpolled | ⟨workload, id, hheld, hid, hfree, hpolled⟩
      · exact .polled hpolled
      · exact .launched workload id hheld hid hfree hpolled
    · refine .polled (polled_run (onlyLooks_call config htarget ?_))
      intro principal taskName vars he
      exact hlaunch ⟨principal, taskName, vars, he⟩

/-- A call is a step of the stores. -/
theorem step_call (h : w.StoresHold) (config : EngineConfig) (call : ServiceCall) :
    w.stores.Step (w.run (call.procedure config)).2.stores := by
  cases moves_call h config call with
  | polled hpolled => exact .polled hpolled
  | changed target hchange => exact .changed target hchange
  | launched workload id held named free polled =>
    exact .launched _ _ _ _ _ (launched_withLaunch config held named free) polled

/-- Whatever happens is a step of the stores. -/
theorem step_stores (h : w.StoresHold) (config : EngineConfig) (event : SessionEvent) :
    w.stores.Step (w.step config event).2.stores := by
  cases event with
  | call call => exact step_call h config call
  | elapse millis => exact .polled (.refl _)
  | script script => exact .polled ⟨rfl, rfl, rfl, rfl, rfl, rfl, fun _ => rfl⟩
  | fail call => exact .polled (.refl _)
  | suffixes jobSuffix podSuffix => exact .polled ⟨rfl, rfl, rfl, rfl, rfl, rfl, fun _ => rfl⟩

/-- Stores that hold go on to hold. -/
theorem storesHold_step (h : w.StoresHold) (config : EngineConfig) (event : SessionEvent) :
    (w.step config event).2.StoresHold := by
  cases event with
  | call call =>
    have hsame := failing_run (w := w) (call.procedure config)
    exact ⟨fun c => hsame ▸ h.catalog c, fun c => hsame ▸ h.secrets c⟩
  | elapse millis => exact ⟨h.catalog, h.secrets⟩
  | script script => exact ⟨h.catalog, h.secrets⟩
  | suffixes jobSuffix podSuffix => exact ⟨h.catalog, h.secrets⟩
  | fail call =>
    refine ⟨fun c hmem => ?_, fun c hmem => ?_⟩
    · rcases List.mem_append.mp hmem with hmem | hmem
      · exact h.catalog c hmem
      · cases c <;> cases call <;> simp [CatalogCall.name, WorkloadCall.name] at hmem
    · rcases List.mem_append.mp hmem with hmem | hmem
      · exact h.secrets c hmem
      · cases c <;> cases call <;> simp [SecretCall.name, WorkloadCall.name] at hmem

/-- The stores of a session hold from the beginning. -/
theorem storesHold_after (config : EngineConfig) (events : List SessionEvent) :
    (World.after config {} events).StoresHold :=
  after_of_step (P := StoresHold) (fun _ event h => storesHold_step h config event)
    ⟨fun _ => List.not_mem_nil, fun _ => List.not_mem_nil⟩ events

/-- What holds of empty stores and is kept by every step of the stores holds along a session. -/
theorem stores_after {P : Stores → Prop} (hempty : P (World.stores {}))
    (hstep : ∀ {s t : Stores}, s.Step t → P s → P t) (config : EngineConfig)
    (events : List SessionEvent) : P (World.after config {} events).stores := by
  have hboth : ∀ (w : World) event, w.StoresHold ∧ P w.stores →
      (w.step config event).2.StoresHold ∧ P (w.step config event).2.stores :=
    fun w event h => ⟨storesHold_step h.1 config event, hstep (step_stores h.1 config event) h.2⟩
  exact (after_of_step hboth ⟨storesHold_after config [], hempty⟩ events).2

end World

end TaskEngine
