import TaskEngine.Memory.Session
import TaskEngine.Proofs.Run
import TaskEngine.Proofs.Simulator

/-!
# Procedures that only look

A read of the status of a job counts and may end the job, and that is all that looking at the stores
and at the orchestrator can do. Which requests a procedure puts is settled along its steps, whatever
the replies are.
-/

namespace TaskEngine

open Engine

/-! ## Requests of a dialogue -/

namespace Dialogue

variable {Request : Type} {Reply : Request → Type} {α β : Type} {allowed : Request → Prop}

/-- Whatever the replies are, only allowed requests are put. -/
def OnlyAsks (allowed : Request → Prop) : Dialogue Request Reply α → Prop
  | .done _ => True
  | .ask r next => allowed r ∧ ∀ reply, (next reply).OnlyAsks allowed

theorem OnlyAsks.pure (a : α) : (pure a : Dialogue Request Reply α).OnlyAsks allowed := trivial

theorem OnlyAsks.followedBy {d : Dialogue Request Reply α}
    {next : Outcome α → Dialogue Request Reply β} (hfirst : d.OnlyAsks allowed)
    (hnext : ∀ result, (next result).OnlyAsks allowed) :
    (d.followedBy next).OnlyAsks allowed := by
  induction d with
  | done result => exact hnext result
  | ask r go ih => exact ⟨hfirst.1, fun reply => ih reply (hfirst.2 reply)⟩

theorem OnlyAsks.bind {d : Dialogue Request Reply α} {next : α → Dialogue Request Reply β}
    (hfirst : d.OnlyAsks allowed) (hnext : ∀ a, (next a).OnlyAsks allowed) :
    (d >>= next).OnlyAsks allowed := by
  refine hfirst.followedBy fun result => ?_
  cases result with
  | ok a => exact hnext a
  | error e => trivial

theorem OnlyAsks.map {d : Dialogue Request Reply α} (h : d.OnlyAsks allowed) (f : α → β) :
    (f <$> d).OnlyAsks allowed :=
  OnlyAsks.bind h fun a => OnlyAsks.pure (f a)

theorem OnlyAsks.attempt {d : Dialogue Request Reply α} (h : d.OnlyAsks allowed) :
    d.attempt.OnlyAsks allowed :=
  h.followedBy fun _ => trivial

theorem OnlyAsks.each {act : α → Dialogue Request Reply β} (h : ∀ a, (act a).OnlyAsks allowed)
    (as : List α) : (each act as).OnlyAsks allowed := by
  induction as with
  | nil => trivial
  | cons a as ih => exact (h a).bind fun b => ih.bind fun bs => trivial

/-- What follows a result that is taken over counts only if it is a success. -/
theorem OnlyAsks.lift_bind {result : Outcome α} {next : α → Dialogue Request Reply β}
    (h : ∀ a, result = .ok a → (next a).OnlyAsks allowed) :
    (lift result >>= next).OnlyAsks allowed := by
  cases result with
  | ok a => exact h a rfl
  | error e => trivial

/-- Who asks for less asks for no more than is allowed. -/
theorem OnlyAsks.mono {fewer : Request → Prop} (hallowed : ∀ r, fewer r → allowed r)
    {d : Dialogue Request Reply α} (h : d.OnlyAsks fewer) : d.OnlyAsks allowed := by
  induction d with
  | done result => trivial
  | ask r next ih => exact ⟨hallowed r h.1, fun reply => ih reply (h.2 reply)⟩

/-- What every allowed request keeps, a dialogue keeps. -/
theorem OnlyAsks.run {σ : Type} {answer : (r : Request) → σ → Reply r × σ} {R : σ → σ → Prop}
    (hrefl : ∀ s, R s s) (htrans : ∀ {s t u}, R s t → R t u → R s u)
    (hanswer : ∀ r s, allowed r → R s (answer r s).2) {d : Dialogue Request Reply α}
    (h : d.OnlyAsks allowed) (s : σ) : R s (d.run answer s).2 := by
  induction d generalizing s with
  | done result => exact hrefl s
  | ask r next ih => exact htrans (hanswer r s h.1) (ih _ (h.2 _) _)

end Dialogue

/-! ## Stored objects -/

/-- What the calls of the service work on. -/
structure Stores where
  /-- Runners and tasks. -/
  catalog : RecordStore
  /-- Their secrets. -/
  secrets : RecordStore
  /-- Jobs, scheduled jobs, deployments and pods. -/
  workloads : Simulator

/-- The stores of a world. -/
def World.stores (w : World) : Stores := ⟨w.catalog, w.secrets, w.workloads⟩

/-- The stores differ in the statuses of jobs, and in nothing else that is stored. -/
structure Stores.Polled (s t : Stores) : Prop where
  catalog : t.catalog = s.catalog
  secrets : t.secrets = s.secrets
  cronJobs : t.workloads.cronJobs = s.workloads.cronJobs
  deployments : t.workloads.deployments = s.workloads.deployments
  pods : t.workloads.pods = s.workloads.pods
  logs : t.workloads.logs = s.workloads.logs
  /-- The same jobs are there. -/
  jobs : ∀ name, (t.workloads.jobs.get? name).map SimulatedJob.fixed =
    (s.workloads.jobs.get? name).map SimulatedJob.fixed

theorem Stores.Polled.refl (s : Stores) : s.Polled s := ⟨rfl, rfl, rfl, rfl, rfl, rfl, fun _ => rfl⟩

theorem Stores.Polled.trans {s t u : Stores} (hst : s.Polled t) (htu : t.Polled u) :
    s.Polled u where
  catalog := htu.catalog.trans hst.catalog
  secrets := htu.secrets.trans hst.secrets
  cronJobs := htu.cronJobs.trans hst.cronJobs
  deployments := htu.deployments.trans hst.deployments
  pods := htu.pods.trans hst.pods
  logs := htu.logs.trans hst.logs
  jobs name := (htu.jobs name).trans (hst.jobs name)

/-! ## Looking -/

/-- Whether a request leaves everything but statuses of jobs as it is, and no audit entry. -/
def Request.OnlyLooks : Request → Prop
  | .catalog (.get _) | .catalog .list | .secrets (.get _) => True
  | .catalog _ | .secrets _ => False
  | .workloads (.createJob _) | .workloads (.deleteJob _) | .workloads (.applyCronJob ..)
  | .workloads (.deleteCronJob _) | .workloads (.applyDeployment ..)
  | .workloads (.deleteDeployment _) | .record _ => False
  | .workloads _ | .count _ | .clock | .sleepUntil _ => True

/-- Whether a procedure leaves everything but statuses of jobs as it is, and no audit entry. -/
abbrev Procedure.OnlyLooks {α : Type} (p : Procedure α) : Prop :=
  Dialogue.OnlyAsks Request.OnlyLooks p

namespace World

variable {α β : Type} {w : World}

/-- A call that is made to fail has no effect, and any other is answered. -/
theorem guarded_cases {P : Outcome α × World → Prop} {call : String} {answer : Outcome α × World}
    (hfails : P (.error (injected call), w)) (hanswers : P answer) : P (w.guarded call answer) := by
  rw [guarded]
  split
  · exact hfails
  · exact hanswers

/-- Reading the status of a job leaves all but statuses of jobs. -/
theorem polled_getJob (now : Instant) (name : String) :
    w.stores.Polled { w.stores with workloads := (w.workloads.answer now (.getJob name)).2 } := by
  simp only [Simulator.answer, Simulator.find]
  cases hget : w.workloads.jobs.get? name with
  | none => exact .refl _
  | some found =>
    refine ⟨rfl, rfl, rfl, rfl, rfl, rfl, fun other => ?_⟩
    change ((w.workloads.jobs.insert name (found.read now)).get? other).map _ = _
    rw [Dict.get?_insert]
    split
    · rename_i he
      rw [← he, stores, hget, Option.map_some, Option.map_some, SimulatedJob.fixed_read]
    · rfl

/-- A request that only looks leaves all but statuses of jobs. -/
theorem polled_answer {r : Request} (h : r.OnlyLooks) : w.stores.Polled (answer r w).2.stores := by
  cases r with
  | record entry => exact h.elim
  | count metric => exact .refl _
  | clock => exact .refl _
  | sleepUntil due => exact .refl _
  | catalog call =>
    refine guarded_cases (P := fun answer => w.stores.Polled answer.2.stores) (.refl _) ?_
    cases call <;> first | exact .refl _ | exact h.elim
  | secrets call =>
    refine guarded_cases (P := fun answer => w.stores.Polled answer.2.stores) (.refl _) ?_
    cases call <;> first | exact .refl _ | exact h.elim
  | workloads call =>
    refine guarded_cases (P := fun answer => w.stores.Polled answer.2.stores) (.refl _) ?_
    cases call <;> first | exact .refl _ | exact polled_getJob _ _ | exact h.elim

/-- A procedure that only looks leaves all but statuses of jobs. -/
theorem polled_run {p : Procedure α} (h : p.OnlyLooks) : w.stores.Polled (w.run p).2.stores :=
  Dialogue.OnlyAsks.run (R := fun w v => w.stores.Polled v.stores) (fun w => .refl w.stores)
    Stores.Polled.trans (fun _ _ hr => polled_answer hr) h w

/-- A request changes nothing about which calls are made to fail. -/
theorem failing_answer (r : Request) (w : World) : (answer r w).2.failing = w.failing := by
  cases r with
  | catalog call | secrets call | workloads call =>
    simp only [answer, guarded]
    split <;> rfl
  | record entry | count metric | clock | sleepUntil due => rfl

/-- No procedure changes which calls fail. -/
theorem failing_run (p : Procedure α) : (w.run p).2.failing = w.failing := by
  change (Dialogue.run answer p w).2.failing = w.failing
  induction p generalizing w with
  | done result => rfl
  | ask r next ih => exact (ih _).trans (failing_answer r w)

end World

namespace Engine

/-! ## Requests -/

theorem onlyLooks_catalog (call : CatalogCall) (h : (Request.catalog call).OnlyLooks) :
    (Procedure.catalog call).OnlyLooks := ⟨h, fun _ => trivial⟩

theorem onlyLooks_secrets (call : SecretCall) (h : (Request.secrets call).OnlyLooks) :
    (Procedure.secrets call).OnlyLooks := ⟨h, fun _ => trivial⟩

theorem onlyLooks_workloads (call : WorkloadCall) (h : (Request.workloads call).OnlyLooks) :
    (Procedure.workloads call).OnlyLooks := ⟨h, fun _ => trivial⟩

theorem onlyLooks_count (metric : Metric) : (Procedure.count metric).OnlyLooks :=
  ⟨trivial, fun _ => trivial⟩

theorem onlyLooks_clock : Procedure.clock.OnlyLooks := ⟨trivial, fun _ => trivial⟩

theorem onlyLooks_sleepUntil (due : Nat) : (Procedure.sleepUntil due).OnlyLooks :=
  ⟨trivial, fun _ => trivial⟩

/-! ## Procedures -/

theorem onlyLooks_loadTask (name : String) : (loadTask name).OnlyLooks := by
  refine (onlyLooks_catalog (.get name) trivial).bind fun found => ?_
  cases found with
  | none => trivial
  | some record =>
    simp only
    split <;> trivial

theorem onlyLooks_loadRunner (name : String) : (loadRunner name).OnlyLooks := by
  refine (onlyLooks_catalog (.get name) trivial).bind fun found => ?_
  cases found with
  | none => trivial
  | some record =>
    simp only
    split <;> trivial

theorem onlyLooks_ownerKind (name : String) : (ownerKind name).OnlyLooks := by
  refine (onlyLooks_catalog (.get name) trivial).bind fun found => ?_
  cases found with
  | none => trivial
  | some record =>
    simp only
    split
    · trivial
    · split <;> trivial

theorem onlyLooks_redactedSecret (name : String) : (redactedSecret name).OnlyLooks :=
  (onlyLooks_secrets (.get name) trivial).bind fun _ => trivial

theorem onlyLooks_getSecret (name : String) : (getSecret name).OnlyLooks :=
  (onlyLooks_ownerKind name).bind fun _ => (onlyLooks_redactedSecret name).bind fun _ => trivial

theorem onlyLooks_getRunner (name : String) : (getRunner name).OnlyLooks := by
  refine (onlyLooks_loadRunner name).bind fun runner => ?_
  refine (onlyLooks_secrets (.get name) trivial).bind fun secret => ?_
  split <;> trivial

theorem onlyLooks_getTask (name : String) : (getTask name).OnlyLooks :=
  (onlyLooks_loadTask name).bind fun _ => (onlyLooks_redactedSecret name).bind fun _ => trivial

theorem onlyLooks_listRunners (scope : AuthorizedIds) : (listRunners scope).OnlyLooks := by
  rw [listRunners]
  split
  · trivial
  · exact (onlyLooks_catalog .list trivial).bind fun _ => trivial

theorem onlyLooks_listTasks (scope : AuthorizedIds) : (listTasks scope).OnlyLooks := by
  rw [listTasks]
  split
  · trivial
  · exact (onlyLooks_catalog .list trivial).bind fun _ => trivial

theorem onlyLooks_listMerged {α β : Type} (scope : AuthorizedIds)
    {list : String → Procedure (List α)} (h : ∀ selector, (list selector).OnlyLooks)
    (view : α → β) (name : β → String) : (listMerged scope list view name).OnlyLooks :=
  (Dialogue.OnlyAsks.each h _).bind fun _ => trivial

theorem onlyLooks_findPods (jobId : String) (owner : Option String) :
    (findPods jobId owner).OnlyLooks := by
  refine (onlyLooks_workloads (.listPods _) trivial).bind fun pods => ?_
  split <;> trivial

theorem onlyLooks_readLogs (pods : List Cluster.Pod) : (readLogs pods).OnlyLooks := by
  refine Dialogue.OnlyAsks.bind (Dialogue.OnlyAsks.each (fun log => ?_) _) fun _ => trivial
  exact (onlyLooks_workloads (.podLogs _ _) trivial).bind fun _ => trivial

theorem onlyLooks_collectOutput (jobId : String) (owner : Option String) :
    (collectOutput jobId owner).OnlyLooks :=
  (onlyLooks_findPods jobId owner).bind fun pods => (onlyLooks_readLogs pods).bind fun _ =>
    (onlyLooks_count _).bind fun _ => trivial

theorem onlyLooks_assemble (job : Cluster.Job) (owner : Option String) :
    (assemble job owner).OnlyLooks := by
  refine (onlyLooks_collectOutput _ owner).attempt.bind fun output => ?_
  cases output with
  | ok output => trivial
  | error e =>
    simp only
    split <;> trivial

/-- One read of a wait, with what follows unless it ends the wait. -/
def pollRound (policy : PollPolicy) (jobId : String) (started due : Nat)
    (next : Nat → Cluster.Job → Procedure WaitOutcome) : Procedure WaitOutcome := do
  let woken ← Procedure.sleepUntil due
  let job ← Procedure.workloads (.getJob jobId)
  if (JobSummary.ofCluster job).isFinished then return .completed job
  let now ← Procedure.clock
  if policy.deadline ≤ now - started then return .timedOut job
  next woken job

/-- The last read of a wait. -/
theorem pollFrom_zero (policy : PollPolicy) (jobId : String) (started due : Nat) :
    pollFrom policy jobId started 0 due =
      pollRound policy jobId started due fun _ job => return .timedOut job := rfl

/-- A read of a wait that more may follow. -/
theorem pollFrom_succ (policy : PollPolicy) (jobId : String) (started more due : Nat) :
    pollFrom policy jobId started (more + 1) due =
      pollRound policy jobId started due fun woken _ =>
        pollFrom policy jobId started more (policy.nextDue due woken) := rfl

theorem onlyLooks_pollRound (policy : PollPolicy) (jobId : String) (started due : Nat)
    {next : Nat → Cluster.Job → Procedure WaitOutcome}
    (hnext : ∀ woken job, (next woken job).OnlyLooks) :
    (pollRound policy jobId started due next).OnlyLooks := by
  refine (onlyLooks_sleepUntil due).bind fun woken => ?_
  refine (onlyLooks_workloads (.getJob jobId) trivial).bind fun job => ?_
  split
  · trivial
  · refine onlyLooks_clock.bind fun now => ?_
    split
    · trivial
    · exact hnext woken job

theorem onlyLooks_pollFrom (policy : PollPolicy) (jobId : String) (started laterReads due : Nat) :
    (pollFrom policy jobId started laterReads due).OnlyLooks := by
  induction laterReads generalizing due with
  | zero =>
    rw [pollFrom_zero]
    exact onlyLooks_pollRound _ _ _ _ fun _ _ => trivial
  | succ more ih =>
    rw [pollFrom_succ]
    exact onlyLooks_pollRound _ _ _ _ fun _ _ => ih _

theorem onlyLooks_waitMeasured (policy : PollPolicy) (jobId : String) :
    (waitMeasured policy jobId).OnlyLooks := by
  have hwait : (waitFor policy jobId).OnlyLooks :=
    onlyLooks_clock.bind fun started =>
      onlyLooks_pollFrom policy jobId started policy.laterReads started
  refine onlyLooks_clock.bind fun started => ?_
  refine hwait.attempt.bind fun waited => ?_
  refine onlyLooks_clock.bind fun ended => ?_
  exact (onlyLooks_count _).bind fun _ => trivial

theorem onlyLooks_getSchema (name : String) : (getSchema name).OnlyLooks :=
  (onlyLooks_loadTask name).bind fun _ => trivial

theorem onlyLooks_listJobs (scope : AuthorizedIds) : (listJobs scope).OnlyLooks :=
  onlyLooks_listMerged scope (fun selector => onlyLooks_workloads (.listJobs selector) trivial) _ _

theorem onlyLooks_getJob (id : String) (owner : Option String) : (getJob id owner).OnlyLooks :=
  (onlyLooks_workloads (.getJob id) trivial).bind fun job => onlyLooks_assemble job owner

theorem onlyLooks_getJobLog (id : String) (owner : Option String) :
    (getJobLog id owner).OnlyLooks :=
  (onlyLooks_findPods id owner).bind onlyLooks_readLogs

theorem onlyLooks_getJobData (id : String) (owner : Option String) :
    (getJobData id owner).OnlyLooks :=
  (onlyLooks_collectOutput id owner).bind fun _ => trivial

theorem onlyLooks_listCronJobs (scope : AuthorizedIds) : (listCronJobs scope).OnlyLooks :=
  onlyLooks_listMerged scope (fun selector => onlyLooks_workloads (.listCronJobs selector) trivial) _ _

theorem onlyLooks_getCronJob (name : String) : (getCronJob name).OnlyLooks :=
  (onlyLooks_workloads (.getCronJob name) trivial).bind fun _ => trivial

theorem onlyLooks_listDeployments (scope : AuthorizedIds) : (listDeployments scope).OnlyLooks :=
  onlyLooks_listMerged scope (fun selector => onlyLooks_workloads (.listDeployments selector) trivial) _ _

theorem onlyLooks_getDeployment (name : String) : (getDeployment name).OnlyLooks :=
  (onlyLooks_workloads (.getDeployment name) trivial).bind fun _ => trivial

end Engine

end TaskEngine
