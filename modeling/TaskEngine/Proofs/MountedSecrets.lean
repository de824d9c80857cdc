import Mathlib.Data.List.Induction
import TaskEngine.Proofs.Engine.Edits
import TaskEngine.Proofs.Integrity

/-!
# Secrets that pods are given

A pod template refers to the secret of the task that the workload is labelled with, and to no other.
The task of a scheduled job or of a deployment cannot be removed, so it is never a runner that they
refer to. A job does not keep its task from being removed: once the task is gone, its name may
become that of a runner, and there is no other way for a job to refer to the secret of one.
-/

namespace TaskEngine

open Engine

/-! ## References -/

namespace Cluster

/-- The names of the secrets that the pods of a template are given, as files or as variables. -/
def PodTemplate.secretNames (template : PodTemplate) : List String :=
  let spec := template.spec.getD {}
  ((spec.volumes.getD []).filterMap fun v => v.secret.bind (·.secretName)) ++
    (spec.initContainers.getD [] ++ spec.containers).flatMap fun c =>
      (c.envFrom.getD []).filterMap fun source => source.secret.map (·.name)

/-- The template of the pods of a job. -/
def Job.template (j : Job) : PodTemplate := (j.spec.getD {}).template

/-- The template of the pods of a scheduled job. -/
def CronJob.template (c : CronJob) : PodTemplate :=
  (((c.spec.getD {}).jobTemplate.spec).getD {}).template

/-- The template of the pods of a deployment. -/
def Deployment.template (d : Deployment) : PodTemplate := (d.spec.getD {}).template

/-- The task that an object is labelled with. -/
def Meta.task? (m : Meta) : Option String := m.labels.bind (·.get? Label.task)

/-- Whether the pods of a template are given the secret of a task and no other. -/
def PodTemplate.Mounts (template : PodTemplate) (task : Option String) : Prop :=
  ∀ name ∈ template.secretNames, task = some name

end Cluster

namespace Workload

variable (config : EngineConfig) (w : Workload)

/-- What bears the labels of a workload and gives its pods two secrets of its task mounts no
other. -/
theorem mounts_of_labels {template : Cluster.PodTemplate} {m : Cluster.Meta}
    (hnames : template.secretNames = [w.task.name, w.task.name])
    (hlabels : m.labels = some w.labels) : template.Mounts m.task? := by
  intro name hname
  rw [hnames] at hname
  simp only [List.mem_cons, List.not_mem_nil, or_false, or_self] at hname
  rw [Cluster.Meta.task?, hlabels, hname]
  exact Stores.task_ofWorkload w.owner w.task.name

theorem mounts_job : (w.job config).template.Mounts (w.job config).metadata.task? :=
  w.mounts_of_labels rfl rfl

theorem mounts_cronJob (name schedule : String) (disabled : Bool) :
    (w.cronJob config name schedule disabled).template.Mounts
      (w.cronJob config name schedule disabled).metadata.task? :=
  w.mounts_of_labels rfl rfl

theorem mounts_deployment (name : String) (replicas : Int) :
    (w.deployment config name replicas).template.Mounts
      (w.deployment config name replicas).metadata.task? :=
  w.mounts_of_labels rfl rfl

end Workload

/-! ## What is submitted -/

/-- Whether what is submitted with a request refers to the secret of its task only. -/
def Request.Mounts : Request → Prop
  | .workloads (.createJob job) => job.template.Mounts job.metadata.task?
  | .workloads (.applyCronJob object _) => object.template.Mounts object.metadata.task?
  | .workloads (.applyDeployment object _) => object.template.Mounts object.metadata.task?
  | _ => True

/-- Whether all that a procedure submits refers to the secret of its task only. -/
abbrev Procedure.Mounts {α : Type} (p : Procedure α) : Prop := Dialogue.OnlyAsks Request.Mounts p

/-- Who only looks submits nothing. -/
theorem Procedure.OnlyLooks.mounts {α : Type} {p : Procedure α} (h : p.OnlyLooks) : p.Mounts := by
  refine Dialogue.OnlyAsks.mono (fun r hr => ?_) h
  cases r with
  | workloads call => cases call <;> trivial
  | _ => trivial

/-- An audit entry is no submission. -/
theorem Procedure.Mounts.audited {α : Type} {p : Procedure α} (h : p.Mounts) (principal : Principal)
    (action : AuditAction) (category : ResourceKind) (target : String) :
    (Procedure.audited principal action category target p).Mounts :=
  Dialogue.OnlyAsks.followedBy h fun _ => ⟨trivial, fun _ => trivial⟩

namespace Engine

theorem mounts_workloads (call : WorkloadCall) (h : (Request.workloads call).Mounts) :
    (Procedure.workloads call).Mounts := ⟨h, fun _ => trivial⟩

theorem mounts_launch (config : EngineConfig) (taskName owner : String) (vars : Option String) :
    (launch config taskName owner vars).Mounts :=
  (onlyLooks_prepare taskName vars).mounts.bind fun ready =>
    (mounts_workloads (.createJob _) ((ready.workload owner).mounts_job config)).bind fun created =>
      (World.onlyLooks_afterLaunch config ready owner created).mounts

theorem mounts_applyCronJob (config : EngineConfig) (c : CronJob) (mode : WriteMode) :
    (applyCronJob config c mode).Mounts :=
  .lift_bind fun _ _ => (onlyLooks_prepare _ _).mounts.bind fun ready =>
    (mounts_workloads (.applyCronJob ..)
      ((ready.workload c.owner).mounts_cronJob config _ _ _)).bind fun _ =>
      (onlyLooks_count _).mounts.bind fun _ => trivial

theorem mounts_applyDeployment (config : EngineConfig) (d : Deployment) (mode : WriteMode) :
    (applyDeployment config d mode).Mounts :=
  .lift_bind fun _ _ => (onlyLooks_prepare _ _).mounts.bind fun ready =>
    (mounts_workloads (.applyDeployment ..)
      ((ready.workload d.owner).mounts_deployment config _ _)).bind fun _ =>
      (onlyLooks_count _).mounts.bind fun _ => trivial

end Engine

/-! ## What is stored -/

/-- Every stored workload refers to the secret of its task only. -/
structure Simulator.Mounts (s : Simulator) : Prop where
  job : ∀ id j, s.jobs.get? id = some j → j.job.template.Mounts j.job.metadata.task?
  cronJob : ∀ name object, s.cronJobs.get? name = some object →
    object.template.Mounts object.metadata.task?
  deployment : ∀ name object, s.deployments.get? name = some object →
    object.template.Mounts object.metadata.task?

namespace Simulator.Mounts

variable {s : Simulator}

theorem empty : Simulator.Mounts {} where
  job := by simp
  cronJob := by simp
  deployment := by simp

/-- What a read of a status leaves of a job is all that matters. -/
theorem job_of_fixed {j old : SimulatedJob} (hfixed : j.fixed = old.fixed)
    (h : old.job.template.Mounts old.job.metadata.task?) :
    j.job.template.Mounts j.job.metadata.task? := by
  have hmetadata : j.job.metadata = old.job.metadata := congrArg (·.1) hfixed
  have hspec : j.job.spec = old.job.spec := congrArg (·.2.1) hfixed
  rwa [Cluster.Job.template, hmetadata, hspec]

/-- A job that is made of what is submitted takes its labels if it has any, and its template. -/
theorem made {now : Instant} {job : Cluster.Job} {name : String}
    (hjob : job.template.Mounts job.metadata.task?) :
    (s.made now job name).job.template.Mounts (s.made now job name).job.metadata.task? := by
  refine job_of_fixed (SimulatedJob.fixed_advance now _) fun secret hsecret => ?_
  have htask := hjob secret hsecret
  rw [Cluster.Meta.task?] at htask ⊢
  cases hlabels : job.metadata.labels with
  | none =>
    rw [hlabels] at htask
    cases htask
  | some labels => rwa [hlabels] at htask

/-- An object that is found is there. -/
theorem get?_of_find {α : Type} {objects : Dict α} {resource name : String} {object : α}
    (h : find objects resource name = .ok object) : objects.get? name = some object := by
  rw [find] at h
  cases hget : objects.get? name with
  | none =>
    rw [hget] at h
    cases h
  | some found =>
    rw [hget] at h
    cases h
    rfl

/-- An answer that may change something keeps all references if it does when it succeeds. -/
theorem settle {α : Type} {result : Outcome (α × Simulator)} (h : s.Mounts)
    (hok : ∀ a t, result = .ok (a, t) → t.Mounts) : (s.settle result).2.Mounts := by
  rcases result with e | ⟨a, t⟩
  · exact h
  · exact hok a t rfl

/-- What holds of an object and of all that are there holds of all once it is put in place. -/
theorem forall_store {α : Type} {objects stored : Dict α} {Q : α → Prop} {resource : String}
    {metadata : Cluster.Meta} {object : α} {mode : WriteMode}
    (hstore : store objects resource metadata object mode = .ok stored) (hobject : Q object)
    (h : ∀ key stored, objects.get? key = some stored → Q stored) (key : String) (other : α)
    (hget : stored.get? key = some other) : Q other := by
  cases hname : metadata.name with
  | none =>
    rw [store, hname] at hstore
    cases hstore
  | some name =>
    rw [eq_insert_of_store hname hstore] at hget
    exact Dict.forall_insert hobject h key other hget

/-- An answer keeps all references, if what is submitted is in order. -/
theorem answer (h : s.Mounts) (now : Instant) {call : WorkloadCall}
    (hcall : (Request.workloads call).Mounts) : (s.answer now call).2.Mounts := by
  cases call with
  | listJobs | getCronJob | listCronJobs | getDeployment | listDeployments | listPods | podLogs =>
    exact h
  | createJob job =>
    refine h.settle fun a t ht => ?_
    rw [createJob_eq] at ht
    obtain ⟨name, hname, hrest⟩ := Outcome.bind_eq_ok.mp ht
    obtain ⟨-, -, hmade⟩ := Outcome.bind_eq_ok.mp hrest
    cases hmade
    exact { h with job := Dict.forall_insert (made hcall) h.job }
  | getJob name =>
    refine h.settle fun a t ht => ?_
    obtain ⟨found, hfound, ht⟩ := Outcome.bind_eq_ok.mp ht
    cases ht
    have hget : s.jobs.get? name = some found := get?_of_find hfound
    have hread := job_of_fixed (found.fixed_read now) (h.job name found hget)
    exact { h with job := Dict.forall_insert hread h.job }
  | deleteJob name =>
    refine h.settle fun a t ht => ?_
    obtain ⟨-, -, ht⟩ := Outcome.bind_eq_ok.mp ht
    cases ht
    exact { h with job := fun id j hj => h.job id j (Dict.get?_of_erase hj) }
  | applyCronJob object mode =>
    refine h.settle fun a t ht => ?_
    obtain ⟨stored, hstore, ht⟩ := Outcome.bind_eq_ok.mp ht
    cases ht
    exact { h with cronJob := forall_store hstore hcall h.cronJob }
  | deleteCronJob name =>
    refine h.settle fun a t ht => ?_
    obtain ⟨-, -, ht⟩ := Outcome.bind_eq_ok.mp ht
    cases ht
    exact { h with
      cronJob := fun key object hget => h.cronJob key object (Dict.get?_of_erase hget) }
  | applyDeployment object mode =>
    refine h.settle fun a t ht => ?_
    obtain ⟨stored, hstore, ht⟩ := Outcome.bind_eq_ok.mp ht
    cases ht
    exact { h with deployment := forall_store hstore hcall h.deployment }
  | deleteDeployment name =>
    refine h.settle fun a t ht => ?_
    obtain ⟨-, -, ht⟩ := Outcome.bind_eq_ok.mp ht
    cases ht
    exact { h with
      deployment := fun key object hget => h.deployment key object (Dict.get?_of_erase hget) }

end Simulator.Mounts

/-- A change to a record or its secret leaves the orchestrator as it is. -/
theorem Stores.Change.workloads_eq {s t : Stores} {name : String} (h : s.Change (.record name) t) :
    t.workloads = s.workloads := by
  cases h <;> rfl

namespace World

variable {w : World}

/-- All that a call on workloads submits refers to the secret of its task only. -/
theorem mounts_call (config : EngineConfig) {call : ServiceCall}
    (h : ∀ name, call.target? ≠ some (.record name)) : (call.procedure config).Mounts := by
  cases call with
  | createRunner _ r | updateRunner _ r => exact absurd rfl (h r.name)
  | createTask _ t | updateTask _ t => exact absurd rfl (h t.name)
  | deleteRunner _ name | deleteTask _ name | updateSchema _ name _ | deleteSchema _ name
  | updateSecret _ name _ | deleteSecret _ name => exact absurd rfl (h name)
  | createJob principal taskName vars =>
    exact ((mounts_launch config taskName principal.name vars).audited ..).map _
  | deleteJob principal id => exact ((mounts_workloads (.deleteJob id) trivial).audited ..).map _
  | createCronJob principal c =>
    exact ((mounts_applyCronJob config { c with owner := principal.name } .create).audited ..).map _
  | updateCronJob principal c =>
    exact ((mounts_applyCronJob config { c with owner := principal.name } .update).audited ..).map _
  | deleteCronJob principal name =>
    exact ((mounts_workloads (.deleteCronJob name) trivial).audited ..).map _
  | createDeployment principal d =>
    exact ((mounts_applyDeployment config { d with owner := principal.name } .create).audited
      ..).map _
  | updateDeployment principal d =>
    exact ((mounts_applyDeployment config { d with owner := principal.name } .update).audited
      ..).map _
  | deleteDeployment principal name =>
    exact ((mounts_workloads (.deleteDeployment name) trivial).audited ..).map _
  | _ => exact (onlyLooks_call config rfl (by simp)).mounts

theorem mounts_answer {r : Request} (hr : r.Mounts) (h : w.workloads.Mounts) :
    (answer r w).2.workloads.Mounts := by
  cases r with
  | workloads call =>
    simp only [World.answer, guarded]
    split
    · exact h
    · exact h.answer _ hr
  | catalog call | secrets call =>
    simp only [World.answer, guarded]
    split <;> exact h
  | record entry | count metric | clock | sleepUntil due => exact h

/-- Whatever happens, workloads refer to the secret of their task only. -/
theorem mounts_step (hholds : w.StoresHold) (h : w.workloads.Mounts) (config : EngineConfig)
    (event : SessionEvent) : (w.step config event).2.workloads.Mounts := by
  cases event with
  | call call =>
    by_cases hrecord : ∃ name, call.target? = some (.record name)
    · obtain ⟨name, htarget⟩ := hrecord
      have hsame : (w.run (call.procedure config)).2.workloads = w.workloads := by
        rcases settles_call hholds config htarget with hsame | ⟨hchange, -⟩
        · exact congrArg Stores.workloads hsame
        · exact hchange.workloads_eq
      exact hsame ▸ h
    · exact Dialogue.OnlyAsks.run (R := fun w v => w.workloads.Mounts → v.workloads.Mounts)
        (fun _ => id) (fun hst htu hs => htu (hst hs)) (fun _ _ hr => mounts_answer hr)
        (mounts_call config (not_exists.mp hrecord)) w h
  | elapse millis | script script | fail call | suffixes jobSuffix podSuffix =>
    exact ⟨h.job, h.cronJob, h.deployment⟩

end World

/-! ## Jobs and names over time -/

/-- A job that is there after a step was there before, up to its status, or was made in it, of a
task that is there. -/
theorem Stores.Step.job {s t : Stores} (h : s.Step t) {id : String} {j : SimulatedJob}
    (hj : t.workloads.jobs.get? id = some j) :
    (∃ old, s.workloads.jobs.get? id = some old ∧ old.fixed = j.fixed) ∨
      t.catalog = s.catalog ∧ ∃ task, s.HoldsTask task ∧ j.job.metadata.task? = some task := by
  have hpolled : ∀ {s : Stores}, s.Polled t →
      ∃ old, s.workloads.jobs.get? id = some old ∧ old.fixed = j.fixed := by
    intro s hpolled
    have hjobs := hpolled.jobs id
    rw [hj, Option.map_some] at hjobs
    exact Option.map_eq_some_iff.mp hjobs.symm
  cases h with
  | polled h => exact .inl (hpolled h)
  | changed target h =>
    cases h with
    | jobRemoval held => exact .inl ⟨j, Dict.get?_of_erase hj, rfl⟩
    | _ => exact .inl ⟨j, hj, rfl⟩
  | launched mid task owner jobSuffix podSuffix h hread =>
    obtain ⟨old, hold, hfixed⟩ := hpolled hread
    obtain ⟨made, hjobs, -, hlabels⟩ := h.jobs
    rw [hjobs, Dict.get?_insert] at hold
    split at hold
    · rw [← Option.some.inj hold] at hfixed
      refine .inr ⟨hread.catalog.trans h.catalog, task, h.held, ?_⟩
      have hmetadata : made.job.metadata = j.job.metadata := congrArg (·.1) hfixed
      rw [← hmetadata, Cluster.Meta.task?, hlabels]
      exact Stores.task_ofWorkload owner task
    · exact .inl ⟨old, hold, hfixed⟩

namespace Stores

variable {s : Stores} {unreliable : Prop} {call : ServiceCall} {ok : Bool}
  {catalog secrets : RecordStore} {name : String}

/-- A task is there until a removal of it succeeds. -/
theorem Edited.holdsTask (h : s.Edited unreliable call ok catalog secrets) (hsound : s.Sound)
    (hheld : s.HoldsTask name) :
    HoldsTask { s with catalog, secrets } name ∨
      (∃ principal, call = .deleteTask principal name) ∧ catalog.records.contains name = false := by
  cases h with
  | kept | secret => exact .inl hheld
  | @runner r mode secrets called valid admitted rest =>
    refine .inl (hheld.written secrets fun old hold htask => ?_)
    cases mode with
    | create => rw [admitted] at hold; cases hold
    | update => exact absurd ⟨old, hold, htask⟩ (hsound.not_holdsTask admitted)
  | task called valid admitted rest =>
    exact .inl (hheld.written secrets fun _ _ _ => Task.isRecord_toRecord valid)
  | schema schema called held isTask =>
    refine .inl (hheld.written s.secrets fun _ _ _ => ?_)
    rw [Task.isRecord_iff, Task.field_runner_toRecord]
    exact isTask
  | @removal removed isKind secrets called held rest =>
    by_cases hname : name = removed
    · subst hname
      rcases ServiceCall.removed?_eq_some called with ⟨-, -, rfl⟩ | ⟨principal, rfl, -⟩
      · exact absurd hheld (hsound.not_holdsTask held)
      · exact .inr ⟨⟨principal, rfl⟩, Dict.contains_eq_false_iff.mpr (by simp)⟩
    · exact .inl (hheld.removed secrets hname)

/-- A runner was there before, or is created under a free name. -/
theorem Edited.holdsRunner (h : s.Edited unreliable call ok catalog secrets)
    (hheld : HoldsRunner { s with catalog, secrets } name) :
    s.HoldsRunner name ∨
      (∃ principal r, call = .createRunner principal r ∧ r.name = name) ∧
        s.catalog.records.contains name = false := by
  obtain ⟨record, hget, hrunner⟩ := hheld
  have hwritten : ∀ {other : String} {written : Record},
      (s.catalog.written other written).records.get? name = some record →
      other = name ∧ written = record ∨ s.HoldsRunner name := by
    intro other written hget
    rw [RecordStore.written, Dict.get?_insert] at hget
    split at hget
    · rename_i hname
      exact .inl ⟨hname, Option.some.inj hget⟩
    · exact .inr ⟨record, hget, hrunner⟩
  cases h with
  | kept | secret => exact .inl ⟨record, hget, hrunner⟩
  | @runner r mode secrets called valid admitted rest =>
    rcases hwritten hget with ⟨rfl, -⟩ | hheld
    · cases mode with
      | update => exact .inl admitted
      | create =>
        obtain ⟨principal, rfl⟩ := ServiceCall.writtenRunner?_eq_create called
        exact .inr ⟨⟨principal, r, rfl, rfl⟩, Dict.contains_eq_false_iff.mpr admitted⟩
    · exact .inl hheld
  | @task t mode secrets called valid admitted rest =>
    rcases hwritten hget with ⟨-, rfl⟩ | hheld
    · rw [Runner.isRecord_toRecord_task] at hrunner
      cases hrunner
    · exact .inl hheld
  | schema schema called held isTask =>
    rcases hwritten hget with ⟨-, rfl⟩ | hheld
    · rw [Runner.isRecord_toRecord_task] at hrunner
      cases hrunner
    · exact .inl hheld
  | removal called held rest => exact .inl ⟨record, Dict.get?_of_erase hget, hrunner⟩

end Stores

namespace World

variable {config : EngineConfig} {w : World}

/-- A task is there until a call removes it. -/
theorem holdsTask_step (hholds : w.StoresHold) (hsound : w.stores.Sound) (event : SessionEvent)
    {name : String} (hheld : w.stores.HoldsTask name) :
    (w.step config event).2.stores.HoldsTask name ∨
      (∃ principal, event = .call (.deleteTask principal name)) ∧
        (w.step config event).2.catalog.records.contains name = false := by
  cases event with
  | call call =>
    have hedited : w.stores.Edited False call _ _ _ :=
      edits_call config call _ _ (runs_run hholds _)
    refine (hedited.holdsTask hsound hheld).imp id fun ⟨⟨principal, hcall⟩, hgone⟩ => ?_
    exact ⟨⟨principal, congrArg SessionEvent.call hcall⟩, hgone⟩
  | _ => exact .inl hheld

/-- A runner was there before, or is created under a free name. -/
theorem holdsRunner_step (hholds : w.StoresHold) (event : SessionEvent) {name : String}
    (hheld : (w.step config event).2.stores.HoldsRunner name) :
    w.stores.HoldsRunner name ∨
      (∃ principal r, event = .call (.createRunner principal r) ∧ r.name = name) ∧
        w.catalog.records.contains name = false := by
  cases event with
  | call call =>
    have hedited : w.stores.Edited False call _ _ _ :=
      edits_call config call _ _ (runs_run hholds _)
    refine (hedited.holdsRunner hheld).imp id fun ⟨⟨principal, r, hcall, hname⟩, hfree⟩ => ?_
    exact ⟨⟨principal, r, congrArg SessionEvent.call hcall, hname⟩, hfree⟩
  | _ => exact .inl hheld

/-- The task of a job was removed while the job was there: it was held, a call to remove it came,
and then its name was free. -/
def Abandoned (config : EngineConfig) (events : List SessionEvent) (id : String) (j : SimulatedJob)
    (name : String) : Prop :=
  ∃ past later principal old,
    events = past ++ SessionEvent.call (.deleteTask principal name) :: later ∧
      (World.after config {} past).stores.HoldsTask name ∧
      (World.after config {}
        (past ++ [.call (.deleteTask principal name)])).catalog.records.contains name = false ∧
      (World.after config {} past).workloads.jobs.get? id = some old ∧ old.fixed = j.fixed

/-- After the task of a job was removed, a runner was created under its name. -/
def Repurposed (config : EngineConfig) (events : List SessionEvent) (id : String) (j : SimulatedJob)
    (name : String) : Prop :=
  ∃ past later principal r,
    events = past ++ SessionEvent.call (.createRunner principal r) :: later ∧ r.name = name ∧
      Abandoned config past id j name ∧ (World.after config {} past).catalog.records.contains
        name = false

variable {past : List SessionEvent} {id name : String} {j old : SimulatedJob}

/-- What has happened to a job has happened whatever comes next. -/
theorem Abandoned.append (h : Abandoned config past id old name) (hfixed : old.fixed = j.fixed)
    (event : SessionEvent) : Abandoned config (past ++ [event]) id j name := by
  obtain ⟨earlier, later, principal, first, rfl, hrest, hgone, hthere, hsame⟩ := h
  exact ⟨earlier, later ++ [event], principal, first, List.append_assoc .., hrest, hgone, hthere,
    hsame.trans hfixed⟩

theorem Abandoned.of_fixed (h : Abandoned config past id old name) (hfixed : old.fixed = j.fixed) :
    Abandoned config past id j name := by
  obtain ⟨earlier, later, principal, first, rfl, hrest, hgone, hthere, hsame⟩ := h
  exact ⟨earlier, later, principal, first, rfl, hrest, hgone, hthere, hsame.trans hfixed⟩

theorem Repurposed.append (h : Repurposed config past id old name) (hfixed : old.fixed = j.fixed)
    (event : SessionEvent) : Repurposed config (past ++ [event]) id j name := by
  obtain ⟨earlier, later, principal, r, rfl, hname, habandoned, hfree⟩ := h
  exact ⟨earlier, later ++ [event], principal, r, List.append_assoc .., hname,
    habandoned.of_fixed hfixed, hfree⟩

/-- The task of every job is there or was removed while the job was, and where a runner has its
name, it was created after that. -/
structure Accounted (config : EngineConfig) (past : List SessionEvent) (w : World) : Prop where
  task : ∀ id j name, w.workloads.jobs.get? id = some j → j.job.metadata.task? = some name →
    w.stores.HoldsTask name ∨ Abandoned config past id j name
  runner : ∀ id j name, w.workloads.jobs.get? id = some j → j.job.metadata.task? = some name →
    w.stores.HoldsRunner name → Repurposed config past id j name

theorem after_append_singleton (config : EngineConfig) (w : World) (past : List SessionEvent)
    (event : SessionEvent) :
    w.after config (past ++ [event]) = ((w.after config past).step config event).2 :=
  List.foldl_concat ..

/-- The account is kept from one event to the next. -/
theorem Accounted.append (h : Accounted config past (World.after config {} past))
    (event : SessionEvent) :
    Accounted config (past ++ [event]) (World.after config {} (past ++ [event])) := by
  have hholds := storesHold_after config past
  have hsound := stores_after Stores.sound_empty Stores.Sound.step config past
  have hnext := after_append_singleton config {} past event
  have hsound' := stores_after Stores.sound_empty Stores.Sound.step config (past ++ [event])
  have hstep : (World.after config {} past).stores.Step
      (World.after config {} (past ++ [event])).stores := by
    rw [hnext]
    exact step_stores hholds config event
  constructor
  · intro id j name hj htask
    rcases hstep.job hj with ⟨old, hold, hfixed⟩ | ⟨hcatalog, task, hheld, htask'⟩
    · have hmetadata : old.job.metadata = j.job.metadata := congrArg (·.1) hfixed
      rcases h.task id old name hold (hmetadata ▸ htask) with hheld | habandoned
      · rw [hnext]
        refine (holdsTask_step hholds hsound event hheld).imp_right ?_
        rintro ⟨⟨principal, rfl⟩, hgone⟩
        exact ⟨past, [], principal, old, rfl, hheld, hnext ▸ hgone, hold, hfixed⟩
      · exact .inr (habandoned.append hfixed event)
    · obtain rfl : task = name := Option.some.inj (htask'.symm.trans htask)
      exact .inl (by rwa [Stores.HoldsTask, Stores.Holds, hcatalog])
  · intro id j name hj htask hrunner
    rcases hstep.job hj with ⟨old, hold, hfixed⟩ | ⟨hcatalog, task, hheld, htask'⟩
    · have hmetadata : old.job.metadata = j.job.metadata := congrArg (·.1) hfixed
      rw [hnext] at hrunner
      rcases holdsRunner_step hholds event hrunner with
        hbefore | ⟨⟨principal, r, rfl, hname⟩, hfree⟩
      · exact (h.runner id old name hold (hmetadata ▸ htask) hbefore).append hfixed event
      · -- The name was free, so the task of the job was gone already.
        have hnone := Dict.contains_eq_false_iff.mp hfree
        have hgone : ¬ (World.after config {} past).stores.HoldsTask name := by
          rintro ⟨record, hget, -⟩
          cases hnone.symm.trans hget
        have habandoned := (h.task id old name hold (hmetadata ▸ htask)).resolve_left hgone
        exact ⟨past, [], principal, r, rfl, hname, habandoned.of_fixed hfixed, hfree⟩
    · obtain rfl : task = name := Option.some.inj (htask'.symm.trans htask)
      have hheld' : (World.after config {} (past ++ [event])).stores.HoldsTask task := by
        rwa [Stores.HoldsTask, Stores.Holds, hcatalog]
      exact absurd hheld' (hsound'.not_holdsTask hrunner)

theorem accounted_after (config : EngineConfig) (events : List SessionEvent) :
    Accounted config events (World.after config {} events) := by
  induction events using List.reverseRecOn with
  | nil => constructor <;> intro id j name hj <;> cases hj
  | append_singleton past event ih => exact ih.append event

theorem mounts_after (config : EngineConfig) (events : List SessionEvent) :
    (World.after config {} events).workloads.Mounts :=
  (after_of_step (P := fun w => w.StoresHold ∧ w.workloads.Mounts)
    (fun _ event h => ⟨storesHold_step h.1 config event, mounts_step h.1 h.2 config event⟩)
    ⟨storesHold_after config [], .empty⟩ events).2

/-- All along a session, scheduled jobs and deployments refer to the secret of a task, never to that
of a runner. A job refers to the secret of a runner only if its task was removed while the job was
there, and the runner was created under the name after that. -/
theorem mounted_secrets (config : EngineConfig) (events : List SessionEvent) {w : World}
    (hw : w = World.after config {} events) (name : String) :
    (∀ key object, w.workloads.cronJobs.get? key = some object →
      name ∈ object.template.secretNames →
        w.stores.HoldsTask name ∧ ¬ w.stores.HoldsRunner name) ∧
    (∀ key object, w.workloads.deployments.get? key = some object →
      name ∈ object.template.secretNames →
        w.stores.HoldsTask name ∧ ¬ w.stores.HoldsRunner name) ∧
    ∀ id j, w.workloads.jobs.get? id = some j → name ∈ j.job.template.secretNames →
      w.stores.HoldsRunner name → Repurposed config events id j name := by
  subst hw
  have hmounts := mounts_after config events
  have hsound := stores_after Stores.sound_empty Stores.Sound.step config events
  have hheld : ∀ {task : Option String}, task = some name →
      (∃ other, task = some other ∧ (World.after config {} events).stores.HoldsTask other) →
      (World.after config {} events).stores.HoldsTask name ∧
        ¬ (World.after config {} events).stores.HoldsRunner name := by
    rintro _ rfl ⟨other, hother, hheld⟩
    cases hother
    exact ⟨hheld, fun hrunner => hsound.not_holdsTask hrunner hheld⟩
  refine ⟨fun key object hget hname => ?_, fun key object hget hname => ?_,
    fun id j hj hname hrunner => ?_⟩
  · exact hheld (hmounts.cronJob key object hget name hname) (hsound.cronJob key object hget)
  · exact hheld (hmounts.deployment key object hget name hname) (hsound.deployment key object hget)
  · have htask := hmounts.job id j hj name hname
    exact (accounted_after config events).runner id j name hj htask hrunner

/-- A session in which the name of the task of a job becomes that of a runner with a token. -/
def repurposing : List SessionEvent := greeting ++
  [.call (.createJob ⟨"alice", "local"⟩ "hello" none),
    .call (.deleteTask ⟨"alice", "local"⟩ "hello"),
    .call (.createRunner ⟨"bob", "local"⟩
      { name := "hello", image := "busybox", gitUrl := "https://example.org/private.git"
        branch := "", token := some "ghp" })]

/-- The job is there, refers to the secret of its name, and the secret is that of the runner. -/
theorem mounted_repurposing :
    ((World.after .standard {} repurposing).workloads.jobs.get? "hello-00001").map
        (fun j => decide ("hello" ∈ j.job.template.secretNames)) = some true ∧
      ((World.after .standard {} repurposing).runnerNamed "hello").isOk = true ∧
      (World.after .standard {} repurposing).secrets.records.get? "hello" =
        some (Dict.ofList [(Runner.tokenKey, "ghp")]) := by
  decide +kernel

/-- A stored job refers to the token of a runner. -/
theorem job_mounts_runner_token :
    ∃ j, (World.after .standard {} repurposing).workloads.jobs.get? "hello-00001" = some j ∧
      "hello" ∈ j.job.template.secretNames ∧
      (World.after .standard {} repurposing).stores.HoldsRunner "hello" ∧
      (World.after .standard {} repurposing).secrets.records.get? "hello" =
        some (Dict.ofList [(Runner.tokenKey, "ghp")]) := by
  obtain ⟨hjob, hrunner, hsecret⟩ := mounted_repurposing
  obtain ⟨j, hj, hmember⟩ := Option.map_eq_some_iff.mp hjob
  obtain ⟨r, hload⟩ := Outcome.isOk_iff.mp hrunner
  exact ⟨j, hj, of_decide_eq_true hmember, holdsRunner_of_runnerNamed hload, hsecret⟩

/-- That job is one whose task was removed before the runner was created. -/
theorem mounted_secrets_repurposing :
    ∃ j, (World.after .standard {} repurposing).workloads.jobs.get? "hello-00001" = some j ∧
      Repurposed .standard repurposing "hello-00001" j "hello" := by
  obtain ⟨hjob, hrunner, -⟩ := mounted_repurposing
  obtain ⟨j, hj, hmember⟩ := Option.map_eq_some_iff.mp hjob
  obtain ⟨r, hload⟩ := Outcome.isOk_iff.mp hrunner
  exact ⟨j, hj, (mounted_secrets .standard repurposing rfl "hello").2.2 "hello-00001" j hj
    (of_decide_eq_true hmember) (holdsRunner_of_runnerNamed hload)⟩

end World

end TaskEngine
